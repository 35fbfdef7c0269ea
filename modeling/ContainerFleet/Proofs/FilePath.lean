import ContainerFleet.FilePath
import Mathlib.Data.List.TakeDrop
import Mathlib.Data.List.TakeWhile

/-!
Paths and their parts. Main statements: `parts_ofParts`, that a path made of parts has these parts,
`parts_withExtension`, the parts of a path with another extension, and `stem_append_eq_iff`, which
names are the same with the extension that they get.
-/

namespace ContainerFleet.FilePath

variable {path part name dir extension : String} {ps : List String} {absolute : Bool}

/-- A text that can be a part of a path. -/
structure IsPart (part : String) : Prop where
  slashless : '/' ∉ part.toList
  ne_empty : part ≠ ""
  ne_dot : part ≠ "."

theorem not_mem_of_mem_splitOn {α : Type} [BEq α] [LawfulBEq α] {x : α} {xs l : List α}
    (h : l ∈ xs.splitOn x) : x ∉ l := by
  induction xs generalizing l with
  | nil =>
      obtain rfl : l = [] := by simpa using h
      exact List.not_mem_nil
  | cons y ys ih =>
      rw [List.splitOn_cons_eq_if_modifyHead] at h
      split at h
      · rcases List.mem_cons.1 h with rfl | h
        · exact List.not_mem_nil
        · exact ih h
      · next hne =>
          rcases hsplit : ys.splitOn x with _ | ⟨first, rest⟩
          · exact absurd hsplit (List.splitOn_ne_nil x ys)
          · rw [hsplit] at h ih
            rcases List.mem_cons.1 h with rfl | h
            · have hxy : x ≠ y := fun heq => hne (by simp [heq])
              simpa [hxy] using ih List.mem_cons_self
            · exact ih (List.mem_cons_of_mem first h)

theorem isPart_of_mem_parts (h : part ∈ parts path) : IsPart part := by
  obtain ⟨hmem, hkept⟩ := List.mem_filter.1 h
  obtain ⟨chars, hchars, rfl⟩ := List.mem_map.1 hmem
  obtain ⟨hempty, hdot⟩ : String.ofList chars ≠ "" ∧ String.ofList chars ≠ "." := by
    simpa using hkept
  exact ⟨by simpa using not_mem_of_mem_splitOn hchars, hempty, hdot⟩

/-- A path made of parts has these parts. -/
theorem parts_ofParts (absolute : Bool) (h : ∀ part ∈ ps, IsPart part) :
    parts (ofParts absolute ps) = ps := by
  have hrelative : ((((['/'].intercalate (ps.map String.toList)).splitOn '/').map
      String.ofList).filter fun part => part ≠ "" && part ≠ ".") = ps := by
    cases ps with
    | nil => rfl
    | cons p ps =>
        rw [List.splitOn_intercalate, List.map_map]
        · have hself : (p :: ps).map (String.ofList ∘ String.toList) = p :: ps := by simp
          rw [hself, List.filter_eq_self]
          intro part hpart
          simp [(h part hpart).ne_empty, (h part hpart).ne_dot]
        · intro chars hchars
          obtain ⟨part, hpart, rfl⟩ := List.mem_map.1 hchars
          exact (h part hpart).slashless
        · simp
  cases absolute
  · simpa [parts, ofParts, String.toList_intercalate] using hrelative
  · simpa [parts, ofParts, String.toList_intercalate, List.splitOn_cons_eq_if_modifyHead] using
      hrelative

theorem parts_of_parent? (h : parent? path = some dir) : parts dir = (parts path).dropLast := by
  unfold parent? at h
  split at h
  · cases h
  · cases h
    exact parts_ofParts _ fun part hpart =>
      isPart_of_mem_parts (List.dropLast_subset _ hpart)

theorem parts_of_parent?_eq_none (h : parent? path = none) : parts path = [] := by
  unfold parent? at h
  split at h
  · assumption
  · cases h

/-- The parts of a path that leads to a file end in the name of the file. -/
theorem parts_of_fileName? (h : fileName? path = some name) :
    parts path = (parts path).dropLast ++ [name] ∧ name ≠ ".." := by
  obtain ⟨hlast, hname⟩ := Option.filter_eq_some_iff.1 h
  obtain ⟨above, habove⟩ := List.getLast?_eq_some_iff.1 hlast
  rw [habove, List.dropLast_concat]
  exact ⟨rfl, by simpa using hname⟩

/-- A path that leads to no file has no parts, or its last part is two dots. -/
theorem parts_of_fileName?_eq_none (h : fileName? path = none) :
    parts path = [] ∨ ∃ above, parts path = above ++ [".."] := by
  cases hlast : (parts path).getLast? with
  | none => exact .inl (List.getLast?_eq_none_iff.1 hlast)
  | some last =>
      rw [fileName?, hlast] at h
      obtain rfl : last = ".." := by simpa using h
      exact .inr (List.getLast?_eq_some_iff.1 hlast)

theorem isPart_of_fileName? (h : fileName? path = some name) : IsPart name :=
  isPart_of_mem_parts (List.mem_of_getLast? (Option.filter_eq_some_iff.1 h).1)

/-- A name is its stem and nothing more, or a dot and an extension without dots follow. -/
theorem stem_cases (name : String) :
    stem name = name ∨
      ∃ extension, '.' ∉ extension.toList ∧ stem name ≠ "" ∧ name = stem name ++ "." ++ extension := by
  unfold stem
  split
  · next before first rest hspan =>
      rw [List.span_eq_takeWhile_dropWhile, Prod.mk.injEq] at hspan
      refine .inr ⟨String.ofList before.reverse, ?_, by simp, ?_⟩
      · have hdots : ∀ c ∈ before, (c != '.') = true := by
          rw [← hspan.1]
          exact fun c hc => List.mem_takeWhile_imp (p := (· != '.')) hc
        simpa using fun hdot => absurd (hdots '.' hdot) (by decide)
      · have hname : name.toList.reverse = before ++ '.' :: first :: rest := by
          rw [← hspan.1, ← hspan.2, List.takeWhile_append_dropWhile]
        rw [← String.toList_inj, ← List.reverse_inj, hname]
        simp
  · exact .inl rfl

theorem stem_append {st : String} (hst : st ≠ "") (hdots : '.' ∉ extension.toList) :
    stem (st ++ "." ++ extension) = st := by
  have hspan : (st ++ "." ++ extension).toList.reverse.span (· != '.') =
      (extension.toList.reverse, '.' :: st.toList.reverse) := by
    have hall : ∀ c ∈ extension.toList.reverse, (c != '.') = true := by
      intro c hc
      have hne : c ≠ '.' := by
        rintro rfl
        exact hdots (List.mem_reverse.1 hc)
      simpa using hne
    rw [List.span_eq_takeWhile_dropWhile]
    simp [List.takeWhile_append_of_pos hall, List.dropWhile_append_of_pos hall]
  rcases hreverse : st.toList.reverse with _ | ⟨first, rest⟩
  · exact absurd (by simpa using hreverse) hst
  · rw [stem, hspan, hreverse]
    rw [List.reverse_eq_iff] at hreverse
    exact (congrArg String.ofList hreverse.symm).trans String.ofList_toList

theorem mem_stem {c : Char} (h : c ∈ (stem name).toList) : c ∈ name.toList := by
  rcases stem_cases name with hself | ⟨extension, -, -, hname⟩
  · rwa [hself] at h
  · rw [hname]
    simp [h]

theorem stem_ne_empty (h : name ≠ "") : stem name ≠ "" := by
  rcases stem_cases name with hself | ⟨extension, -, hne, -⟩
  · rwa [hself]
  · exact hne

/-- A name keeps itself when it gets an extension that it has already. -/
theorem stem_append_eq_iff (h : name ≠ "") (hdots : '.' ∉ extension.toList) :
    stem name ++ "." ++ extension = name ↔ ∃ st, st ≠ "" ∧ name = st ++ "." ++ extension := by
  constructor
  · intro hname
    exact ⟨stem name, stem_ne_empty h, hname.symm⟩
  · rintro ⟨st, hst, rfl⟩
    rw [stem_append hst hdots]

theorem parts_withExtension (h : fileName? path = some name) (hne : extension ≠ "")
    (hslashless : '/' ∉ extension.toList) :
    parts (withExtension path extension) =
      (parts path).dropLast ++ [stem name ++ "." ++ extension] := by
  have hempty : extension.isEmpty = false := by simpa using hne
  have hname := isPart_of_fileName? h
  simp only [withExtension, h, hempty, Bool.false_eq_true, if_false]
  apply parts_ofParts
  intro part hpart
  rcases List.mem_append.1 hpart with hpart | hpart
  · exact isPart_of_mem_parts (List.dropLast_subset _ hpart)
  · obtain rfl := List.mem_singleton.1 hpart
    have hstem : '/' ∉ (stem name).toList := fun hslash => hname.slashless (mem_stem hslash)
    refine ⟨by simp [hstem, hslashless], by simp, ?_⟩
    intro hdot
    have hlength := congrArg (fun s : String => s.toList.length) hdot
    have hpositive := List.length_pos_iff.2 (mt String.toList_eq_nil_iff.1 hne)
    have hstempos := List.length_pos_iff.2
      (mt String.toList_eq_nil_iff.1 (stem_ne_empty hname.ne_empty))
    simp at hlength
    omega

end ContainerFleet.FilePath
