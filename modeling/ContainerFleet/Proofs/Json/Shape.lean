import ContainerFleet.Json.Shape
import ContainerFleet.Proofs.Map

/-!
What reading a record leaves of it. Main statements: `keys_projectFields?`, that its fields are among
those that the record has, in their order, and `project?_of_mem_projectFields?`, that each was read by
its own shape.
-/

namespace ContainerFleet.Shape

variable {fields : List (String × Shape)} {entries found : List (String × Json)} {name : String}
  {shape : Shape} {v : Json}

theorem projectFields?_cons (name : String) (shape : Shape) (fields : List (String × Shape))
    (entries : List (String × Json)) :
    projectFields? ((name, shape) :: fields) entries =
      match projectFields? fields entries,
        (entries.find? fun entry => entry.1 = name).map Prod.snd with
      | none, _ => none
      | some rest, none =>
        match shape with
        | .required _ => none
        | _ => some rest
      | some rest, some .null =>
        match shape with
        | .required value => (project? value .null).map fun v => (name, v) :: rest
        | _ => some rest
      | some rest, some v => (project? shape v).map fun v => (name, v) :: rest := by
  cases shape <;> rfl

/-- A field of a record is left out, or read by its shape. -/
theorem projectFields?_cons_cases
    (h : projectFields? ((name, shape) :: fields) entries = some found) :
    projectFields? fields entries = some found ∨
      ∃ rest raw v, projectFields? fields entries = some rest ∧ shape.project? raw = some v ∧
        found = (name, v) :: rest := by
  rw [projectFields?_cons] at h
  split at h
  · cases h
  · next hrest _ =>
      split at h
      · cases h
      · exact .inl (hrest.trans h)
  · next hrest _ =>
      split at h
      · obtain ⟨v, hv, rfl⟩ := Option.map_eq_some_iff.1 h
        exact .inr ⟨_, .null, v, hrest, hv, rfl⟩
      · exact .inl (hrest.trans h)
  · next hrest _ =>
      obtain ⟨v, hv, rfl⟩ := Option.map_eq_some_iff.1 h
      exact .inr ⟨_, _, v, hrest, hv, rfl⟩

theorem keys_projectFields? (h : projectFields? fields entries = some found) :
    (Map.keys found).Sublist (Map.keys fields) := by
  induction fields generalizing found with
  | nil =>
      cases h
      exact .slnil
  | cons field fields ih =>
      rcases projectFields?_cons_cases h with h | ⟨rest, raw, v, hrest, -, rfl⟩
      · exact (ih h).cons _
      · exact (ih hrest).cons_cons _

theorem project?_of_mem_projectFields? (h : projectFields? fields entries = some found)
    (hmem : (name, v) ∈ found) :
    ∃ shape raw, (name, shape) ∈ fields ∧ shape.project? raw = some v := by
  induction fields generalizing found with
  | nil =>
      cases h
      cases hmem
  | cons field fields ih =>
      obtain h | ⟨rest, raw, u, hrest, hu, rfl⟩ := projectFields?_cons_cases h
      · obtain ⟨shape, raw, hshape, hraw⟩ := ih h hmem
        exact ⟨shape, raw, .tail _ hshape, hraw⟩
      · rcases List.mem_cons.1 hmem with heq | hmem
        · cases heq
          exact ⟨field.2, raw, .head _, hu⟩
        · obtain ⟨shape, raw, hshape, hraw⟩ := ih hrest hmem
          exact ⟨shape, raw, .tail _ hshape, hraw⟩

theorem project?_record (fields : List (String × Shape)) (raw : Json) :
    (record fields).project? raw =
      match raw with
      | .obj entries =>
        if hasRepeated fields entries then none else (projectFields? fields entries).map .obj
      | _ => none := rfl

/-- What is read by a record's shape is an object of fields that were read. -/
theorem exists_of_project?_record {raw : Json} (h : (record fields).project? raw = some v) :
    ∃ entries found, projectFields? fields entries = some found ∧ v = .obj found := by
  rw [project?_record] at h
  split at h
  · next entries =>
      split at h
      · cases h
      · obtain ⟨found, hfound, rfl⟩ := Option.map_eq_some_iff.1 h
        exact ⟨entries, found, hfound, rfl⟩
  · cases h

end ContainerFleet.Shape
