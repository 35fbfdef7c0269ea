/-!
Natural numbers in decimal. Main statements: `read?_write` and `read?_writePadded`, what is written
reads back.
-/

namespace ContainerFleet.Text.Decimal

/-- The digits of a number, without leading zeros. -/
def write (n : Nat) : List Char :=
  Nat.toDigits 10 n

/-- The number written with these digits, one at least; leading zeros are allowed. -/
def read? (s : List Char) : Option Nat :=
  if !s.isEmpty && s.all Char.isDigit then some (Nat.ofDigitChars 10 s 0) else none

theorem isDigit_of_mem_write {n : Nat} {c : Char} (h : c ∈ write n) : c.isDigit :=
  Nat.isDigit_of_mem_toDigits (by decide) (by decide) h

theorem write_ne_nil (n : Nat) : write n ≠ [] :=
  Nat.toDigits_ne_nil

theorem exists_write_eq_cons (n : Nat) : ∃ c digits, write n = c :: digits ∧ c.isDigit = true := by
  obtain ⟨c, digits, h⟩ := List.exists_cons_of_ne_nil (write_ne_nil n)
  exact ⟨c, digits, h, isDigit_of_mem_write (h ▸ List.mem_cons_self)⟩

theorem read?_write (n : Nat) : read? (write n) = some n := by
  have hall : (write n).all Char.isDigit = true :=
    List.all_eq_true.2 fun _ h => isDigit_of_mem_write h
  have hne : (write n).isEmpty = false := by simp [write_ne_nil]
  rw [read?, hall, hne]
  exact congrArg some Nat.ofDigitChars_ten_toDigits

/-- A number in `width` digits at least, filled up with zeros on the left. -/
def writePadded (width n : Nat) : List Char :=
  (write n).leftpad width '0'

variable {width n : Nat}

theorem isDigit_of_mem_writePadded {c : Char} (h : c ∈ writePadded width n) : c.isDigit := by
  rcases List.mem_append.1 h with h | h
  · rw [List.eq_of_mem_replicate h]
    rfl
  · exact isDigit_of_mem_write h

theorem writePadded_ne_nil (width n : Nat) : writePadded width n ≠ [] := by
  simp [writePadded, List.leftpad, write_ne_nil]

theorem read?_writePadded (width n : Nat) : read? (writePadded width n) = some n := by
  have hall : (writePadded width n).all Char.isDigit = true :=
    List.all_eq_true.2 fun _ h => isDigit_of_mem_writePadded h
  have hne : (writePadded width n).isEmpty = false := by simp [writePadded_ne_nil]
  have hvalue : Nat.ofDigitChars 10 (writePadded width n) 0 = n := by
    rw [writePadded, List.leftpad, Nat.ofDigitChars_append, Nat.ofDigitChars_replicate_zero,
      Nat.mul_zero]
    exact Nat.ofDigitChars_ten_toDigits
  rw [read?, hall, hne]
  exact congrArg some hvalue

theorem length_writePadded (hn : n < Nat.pow 10 width) (hwidth : 0 < width) :
    (writePadded width n).length = width := by
  have hlength : (write n).length ≤ width := (Nat.length_toDigits_le_iff (by decide) hwidth).2 hn
  rw [writePadded, List.length_leftpad]
  omega

end ContainerFleet.Text.Decimal
