import ContainerFleet.Proofs.Daemon.Containers
import ContainerFleet.Proofs.Map
import ContainerFleet.Update.Replacement

/-!
The daemons in memory that tell containers apart: ids and names are distinct, and the ids that they
will hand out are unused. Main statement: what the container is like that is created from the
settings of another one.
-/

namespace ContainerFleet

open ContainerFleet.Text

namespace ContainerSpec

theorem labels_withLabels (s : ContainerSpec) {labels : Map String String}
    (h : (Map.keys labels).Nodup) : (s.withLabels labels).labels = labels := by
  have hread : (labels.map fun entry => (entry.1, Json.str entry.2)).filterMap
      (fun entry => entry.2.str?.map (entry.1, ·)) = labels := by
    rw [List.filterMap_map]
    exact List.filterMap_some
  simp only [ContainerSpec.labels, withLabels, Map.get?_insert_self, Option.bind_some, Json.obj?,
    hread]
  exact Map.ofEntries_eq_self h

theorem labels_withImage (s : ContainerSpec) (image : String) :
    (s.withImage image).labels = s.labels := by
  simp only [ContainerSpec.labels, get?_withImage s image labelsName (by decide)]

end ContainerSpec

namespace MemoryDaemon

/-- The id of the container that is created as the one with this number. -/
def idOf (number : Nat) : String :=
  "new" ++ String.ofList (Decimal.write number)

theorem idOf_injective {m n : Nat} (h : idOf m = idOf n) : m = n := by
  have hdigits : Decimal.write m = Decimal.write n := by
    have := congrArg String.toList h
    simpa [idOf, String.toList_append] using this
  have hread := congrArg Decimal.read? hdigits
  rw [Decimal.read?_write, Decimal.read?_write] at hread
  exact Option.some.inj hread

/-- An id ends in a digit, and a temporary name does not. -/
theorem temporaryName_ne_idOf (name : String) (n : Nat) :
    Replacement.temporaryName name ≠ idOf n := by
  intro h
  have hlast := congrArg (fun s => s.toList.getLast?) h
  have hdigit := List.getLast_mem (Decimal.write_ne_nil n)
  have hname : (Replacement.temporaryName name).toList.getLast? = some 'e' := by
    rw [Replacement.temporaryName, String.toList_append, List.getLast?_append]
    rfl
  have hid : (idOf n).toList.getLast? = some ((Decimal.write n).getLast (Decimal.write_ne_nil n)) := by
    simp only [idOf, String.toList_append, String.toList_ofList, List.getLast?_append,
      List.getLast?_eq_some_getLast (Decimal.write_ne_nil n), Option.some_or]
  simp only [hname, hid, Option.some.injEq] at hlast
  rw [← hlast] at hdigit
  exact absurd (Decimal.isDigit_of_mem_write hdigit) (by decide)

/-- Whether a text can be the id of a created container. -/
def startsAsId (s : String) : Bool :=
  "new".toList.isPrefixOf s.toList

theorem startsAsId_idOf (n : Nat) : startsAsId (idOf n) = true := by
  rw [startsAsId, idOf, String.toList_append, List.isPrefixOf_iff_prefix]
  exact List.prefix_append _ _

/-- A daemon that tells its containers apart by id and by name, keeps the two apart, and hands out
ids that nothing is called by. Labels are a map. -/
structure Sound (d : MemoryDaemon) : Prop where
  ids_nodup : (d.containers.map MemoryContainer.id).Nodup
  names_nodup : (d.containers.map MemoryContainer.name).Nodup
  id_ne_name : ∀ c ∈ d.containers, ∀ o ∈ d.containers, c.id ≠ o.name
  unused_idOf : ∀ n, d.created < n → d.Unused (idOf n)
  labels_nodup : ∀ c ∈ d.containers, (Map.keys c.labels).Nodup

variable {d : MemoryDaemon}

theorem unused_idOf_of_startsAsId
    (h : ∀ c ∈ d.containers, startsAsId c.id = false ∧ startsAsId c.name = false) (n : Nat) :
    d.Unused (idOf n) := by
  intro c hc
  refine MemoryContainer.isCalled_eq_false_iff.2 ⟨fun heq => ?_, fun heq => ?_⟩
  · exact absurd ((h c hc).1.symm.trans (heq ▸ startsAsId_idOf n)) Bool.noConfusion
  · exact absurd ((h c hc).2.symm.trans (heq ▸ startsAsId_idOf n)) Bool.noConfusion

theorem Sound.unused_nextId (h : d.Sound) : d.Unused d.nextId :=
  h.unused_idOf _ (Nat.lt_succ_self _)

/-- An id leads to its container. -/
theorem find?_of_mem (hids : (d.containers.map MemoryContainer.id).Nodup)
    (hnames : ∀ c ∈ d.containers, ∀ o ∈ d.containers, c.id ≠ o.name) {c : MemoryContainer}
    (hc : c ∈ d.containers) : d.find? c.id = some c := by
  obtain ⟨before, after, heq⟩ := List.append_of_mem hc
  refine Locates.find? ⟨heq, fun o ho => ?_⟩
  refine MemoryContainer.isCalled_eq_false_iff.2 ⟨?_, ?_⟩
  · rw [heq, List.map_append, List.nodup_append] at hids
    exact hids.2.2 o.id (List.mem_map_of_mem ho) c.id (by simp)
  · exact (hnames c hc o (by simp [heq, ho])).symm

theorem Sound.find? (h : d.Sound) {c : MemoryContainer} (hc : c ∈ d.containers) :
    d.find? c.id = some c :=
  find?_of_mem h.ids_nodup h.id_ne_name hc

/-- A daemon in which the replacement of the only container exits as soon as it is started. -/
def exitingDaemon (c : MemoryContainer) : MemoryDaemon :=
  { empty with containers := [c], crashing := [Replacement.temporaryName c.name] }

theorem exitingDaemon_sound {c : MemoryContainer} (hid : startsAsId c.id = false)
    (hname : startsAsId c.name = false) (hne : c.id ≠ c.name)
    (hlabels : (Map.keys c.labels).Nodup) : (exitingDaemon c).Sound where
  ids_nodup := List.pairwise_singleton _ c.id
  names_nodup := List.pairwise_singleton _ c.name
  id_ne_name o ho p hp := by
    rw [List.mem_singleton.1 ho, List.mem_singleton.1 hp]
    exact hne
  unused_idOf n _ := by
    refine unused_idOf_of_startsAsId (fun o ho => ?_) n
    rw [List.mem_singleton.1 ho]
    exact ⟨hid, hname⟩
  labels_nodup o ho := by
    rw [List.mem_singleton.1 ho]
    exact hlabels

/-- A running container with some labels. -/
def web (labels : Map String String) : MemoryContainer :=
  ⟨"c1", "web", "app:1", "sha256:old", true, .fixed none, labels, .empty⟩

section Places

variable {before after : List MemoryContainer} {c : MemoryContainer}

/-- Beside a container no other one has what only one can have. -/
theorem Locates.ne_of_nodup {α : Type} {f : MemoryContainer → α} (hl : d.Locates before c after)
    (h : (d.containers.map f).Nodup) {o : MemoryContainer} (ho : o ∈ before ++ after) :
    f o ≠ f c := by
  rw [hl.containers_eq, List.map_append, List.map_cons, List.nodup_append, List.nodup_cons] at h
  rcases List.mem_append.1 ho with ho | ho
  · exact h.2.2 (f o) (List.mem_map_of_mem ho) (f c) List.mem_cons_self
  · intro heq
    exact h.2.1.1 (heq ▸ List.mem_map_of_mem ho)

end Places

/-- The container that is created from the settings of another one with a new image. -/
def replacementOf (d : MemoryDaemon) (name : String) (c : MemoryContainer) (image : String) :
    MemoryContainer :=
  d.newContainer name (c.spec.withImage image)

theorem replacementOf_image (name : String) (c : MemoryContainer) (image : String) :
    (d.replacementOf name c image).image = image := by
  simp [replacementOf, newContainer, ContainerSpec.image?_withImage]

theorem replacementOf_imageId (name : String) (c : MemoryContainer) (image : String) :
    (d.replacementOf name c image).imageId = d.imageIdOf image := by
  simp [replacementOf, newContainer, ContainerSpec.image?_withImage]

theorem replacementOf_labels (name image : String) {c : MemoryContainer}
    (h : (Map.keys c.labels).Nodup) : (d.replacementOf name c image).labels = c.labels := by
  simp only [replacementOf, newContainer, ContainerSpec.labels_withImage, MemoryContainer.spec]
  exact ContainerSpec.labels_withLabels _ h

end MemoryDaemon

end ContainerFleet
