import ContainerFleet.Text.Blank
import Mathlib.Data.List.TakeWhile

/-!
Blanks at the ends of a text. Main statements: `trim_eq_iff`, what is left when they are cut off, and
`trim_append`, that more of them make no difference.
-/

namespace ContainerFleet.Text

/-- A text of nothing but blanks. -/
def Blank (s : List Char) : Prop :=
  ∀ c ∈ s, isBlank c = true

instance decidableBlank (s : List Char) : Decidable (Blank s) :=
  List.decidableBAll (fun c => isBlank c = true) s

/-- A text that neither starts nor ends with a blank. -/
structure Bare (s : List Char) : Prop where
  head : ∀ c ∈ s.head?, isBlank c = false
  last : ∀ c ∈ s.getLast?, isBlank c = false

/-- The second text is the first one without the blanks around it. -/
structure Trims (s t : List Char) : Prop where
  bare : Bare t
  around : ∃ before after, s = before ++ (t ++ after) ∧ Blank before ∧ Blank after

variable {s t before after : List Char}

theorem blank_takeWhile (s : List Char) : Blank (s.takeWhile isBlank) :=
  fun _ h => List.mem_takeWhile_imp h

theorem dropBlankEnd_append (h : Blank after) : dropBlankEnd (s ++ after) = dropBlankEnd s := by
  rw [dropBlankEnd, List.reverse_append,
    List.dropWhile_append_of_pos fun c hc => h c (List.mem_reverse.1 hc), dropBlankEnd]

/-- More blanks at either end make no difference. -/
theorem trim_append (hbefore : Blank before) (hafter : Blank after) :
    trim (before ++ (s ++ after)) = trim s := by
  rw [trim, trim, List.dropWhile_append_of_pos hbefore, List.dropWhile_append]
  split
  · next hempty =>
      have hnothing : after.dropWhile isBlank = [] := List.dropWhile_eq_nil_iff.2 hafter
      rw [hnothing, List.isEmpty_iff.1 hempty]
  · exact dropBlankEnd_append hafter

theorem dropWhile_eq_self (h : ∀ c ∈ s.head?, isBlank c = false) : s.dropWhile isBlank = s := by
  cases s with
  | nil => rfl
  | cons c s => rw [List.dropWhile_cons_of_neg (by simp [h c rfl])]

theorem trim_eq_self (h : Bare s) : trim s = s := by
  have hreverse : s.reverse.dropWhile isBlank = s.reverse :=
    dropWhile_eq_self (by simpa using h.last)
  rw [trim, dropWhile_eq_self h.head, dropBlankEnd, hreverse, List.reverse_reverse]

theorem head?_dropWhile (s : List Char) :
    ∀ c ∈ (s.dropWhile isBlank).head?, isBlank c = false := by
  intro c hc
  have hnot := List.head?_dropWhile_not isBlank s
  rw [Option.mem_def.1 hc] at hnot
  simpa using hnot

theorem trims_trim (s : List Char) : Trims s (trim s) := by
  have hend (s : List Char) : s = dropBlankEnd s ++ (s.reverse.takeWhile isBlank).reverse := by
    rw [dropBlankEnd, ← List.reverse_append, List.takeWhile_append_dropWhile, List.reverse_reverse]
  have hlast : Blank ((s.dropWhile isBlank).reverse.takeWhile isBlank).reverse := fun c hc =>
    blank_takeWhile _ c (List.mem_reverse.1 hc)
  refine ⟨⟨fun c hc => ?_, ?_⟩, s.takeWhile isBlank, _, ?_, blank_takeWhile s, hlast⟩
  · -- What is left at the front was there before the end was cut.
    apply head?_dropWhile s c
    rw [hend (s.dropWhile isBlank), List.head?_append, ← trim, Option.mem_def.1 hc]
    rfl
  · simpa [trim, dropBlankEnd] using head?_dropWhile (s.dropWhile isBlank).reverse
  · rw [trim, ← hend, List.takeWhile_append_dropWhile]

theorem trim_eq_iff : trim s = t ↔ Trims s t := by
  constructor
  · rintro rfl
    exact trims_trim s
  · rintro ⟨hbare, before, after, rfl, hbefore, hafter⟩
    rw [trim_append hbefore hafter, trim_eq_self hbare]

end ContainerFleet.Text
