import ContainerFleet.Json.Basic

/-!
What a container is created from.
-/

namespace ContainerFleet

/-- The settings of a container by their names, in the form in which a daemon takes them. -/
structure ContainerSpec where
  settings : Map String Json
deriving Repr

namespace ContainerSpec

def empty : ContainerSpec := ⟨[]⟩

instance : Inhabited ContainerSpec := ⟨empty⟩

def imageName : String := "Image"

def labelsName : String := "Labels"

def image? (s : ContainerSpec) : Option String :=
  (s.settings.get? imageName).bind Json.str?

/-- The same settings with another image. -/
def withImage (s : ContainerSpec) (image : String) : ContainerSpec :=
  ⟨s.settings.insert imageName (.str image)⟩

/-- The labels among the settings that are texts. -/
def labels (s : ContainerSpec) : Map String String :=
  match (s.settings.get? labelsName).bind Json.obj? with
  | some entries => Map.ofEntries (entries.filterMap fun entry => entry.2.str?.map (entry.1, ·))
  | none => []

def withLabels (s : ContainerSpec) (labels : Map String String) : ContainerSpec :=
  ⟨s.settings.insert labelsName (.obj (labels.map fun entry => (entry.1, .str entry.2)))⟩

def toJson (s : ContainerSpec) : Json :=
  .obj s.settings

theorem image?_withImage (s : ContainerSpec) (image : String) :
    (s.withImage image).image? = some image := by
  simp [image?, withImage, Map.get?_insert_self, Json.str?]

/-- An image is the only setting that `withImage` touches. -/
theorem get?_withImage (s : ContainerSpec) (image name : String) (h : name ≠ imageName) :
    (s.withImage image).settings.get? name = s.settings.get? name := by
  simp [withImage, Map.get?_insert, Ne.symm h]

end ContainerSpec

end ContainerFleet
