import ContainerFleet.Json.Record
import ContainerFleet.Label

/-!
What a daemon's listing says about one container.
-/

namespace ContainerFleet

open ContainerFleet.Text

/-- One line of a container listing. -/
structure ContainerRecord where
  id : String
  /-- The name without a leading slash. -/
  name : String
  /-- The image as listed: a reference, or an image id when the reference has moved on. -/
  image : String
  /-- The id of the image that the container runs; empty when it is not known. -/
  imageId : String
  labels : Map String String
  /-- The state as the daemon names it. -/
  state : Option String
deriving DecidableEq, Repr, Inhabited

namespace ContainerRecord

def updateLabels (c : ContainerRecord) : LabelSet :=
  LabelSet.ofRaw c.labels

/-- How many bytes of an id its short form has. -/
def shortIdBytes : Nat := 12

/-- The characters at the front that fill exactly this many bytes. -/
def takeBytes? (bytes : Nat) : List Char → Option (List Char)
  | [] => some []
  | c :: rest =>
    if bytes = 0 then some []
    else if c.utf8Size ≤ bytes then (takeBytes? (bytes - c.utf8Size) rest).map (c :: ·)
    else none

/-- The first bytes of the id; none when they would cut a character. -/
def shortId? (c : ContainerRecord) : Option String :=
  (takeBytes? shortIdBytes c.id.toList).map String.ofList

/-- Whether a selector names this container: by its id, its name, or twelve bytes or more from the
start of its id. -/
def matchesSelector (c : ContainerRecord) (selector : String) : Bool :=
  c.id == selector || c.name == selector ||
    (decide (shortIdBytes ≤ selector.utf8ByteSize) && selector.toList.isPrefixOf c.id.toList)

def fieldNames : List String :=
  ["id", "name", "image", "image_id", "labels", "state"]

def ofJson? (v : Json) : Option ContainerRecord := do
  let r ← v.record? Json.strict fieldNames
  return {
    id := ← r.required? "id" Json.str?
    name := ← r.required? "name" Json.str?
    image := ← r.required? "image" Json.str?
    imageId := ← r.required? "image_id" Json.str?
    labels := ← r.required? "labels" (Json.map? Json.str?)
    state := ← r.optional? "state" Json.str?
  }

def toJson (c : ContainerRecord) : Json :=
  .obj [("id", .str c.id), ("name", .str c.name), ("image", .str c.image),
    ("image_id", .str c.imageId),
    ("labels", .obj (c.labels.map fun entry => (entry.1, .str entry.2))),
    ("state", .ofOption .str c.state)]

end ContainerRecord

end ContainerFleet
