import ContainerFleet.Timestamp.Text
import Mathlib.Data.List.TakeWhile

/-!
Moments as text: what is written reads back. Main statement: `ofText?_toText`.
-/

namespace ContainerFleet.Timestamp

open ContainerFleet.Text Decimal

/-- Digits have no blank in front of them. -/
theorem dropWhile_isBlank_append {digits rest : List Char} (hne : digits ≠ [])
    (h : ∀ c ∈ digits, c.isDigit = true) :
    (digits ++ rest).dropWhile isBlank = digits ++ rest := by
  cases digits with
  | nil => exact absurd rfl hne
  | cons c digits =>
      rw [List.cons_append, List.dropWhile_cons_of_neg]
      rw [isBlank_of_isDigit (h c List.mem_cons_self)]
      exact Bool.false_ne_true

theorem takeNumber?_writePadded {width n : Nat} (hn : n < Nat.pow 10 width) (hwidth : 0 < width)
    (rest : List Char) : takeNumber? width (writePadded width n ++ rest) = some (n, rest) := by
  have hlength := length_writePadded hn hwidth
  have hdigits : (writePadded width n).takeWhile Char.isDigit = writePadded width n :=
    List.takeWhile_eq_self_iff.2 fun _ h => isDigit_of_mem_writePadded h
  rw [takeNumber?, dropWhile_isBlank_append (writePadded_ne_nil width n) fun _ =>
    isDigit_of_mem_writePadded]
  simp only [List.take_left' hlength, hdigits, read?_writePadded, Option.map_some,
    List.drop_left' rfl]

theorem takeMark?_cons {mark : Char} (h : isBlank mark = false) (rest : List Char) :
    takeMark? mark (mark :: rest) = some rest := by
  rw [takeMark?, List.dropWhile_cons_of_neg (by simp [h])]
  simp

/-- The digits at the front of a text, up to a character that is none. -/
theorem span_writePadded {c : Char} (hc : c.isDigit = false) (width n : Nat) (rest : List Char) :
    (writePadded width n ++ c :: rest).takeWhile Char.isDigit = writePadded width n ∧
      (writePadded width n ++ c :: rest).dropWhile Char.isDigit = c :: rest := by
  have hdigits : ∀ d ∈ writePadded width n, d.isDigit = true := fun _ =>
    isDigit_of_mem_writePadded
  rw [List.takeWhile_append_of_pos hdigits, List.dropWhile_append_of_pos hdigits]
  simp [hc]

theorem writePadded_append_ne {c : Char} (hc : c.isDigit = false) (width n : Nat)
    (rest more : List Char) : writePadded width n ++ rest ≠ c :: more := by
  intro h
  cases hdigits : writePadded width n with
  | nil => exact writePadded_ne_nil width n hdigits
  | cons d digits =>
      rw [hdigits] at h
      obtain ⟨rfl, -⟩ := List.cons.inj h
      have hd : d.isDigit = true := isDigit_of_mem_writePadded (hdigits ▸ List.mem_cons_self)
      cases hc.symm.trans hd

theorem takeYear?_writeYear (year : Int) (rest : List Char) :
    takeYear? (writeYear year ++ '-' :: rest) = some (year, '-' :: rest) := by
  obtain ⟨htake, hdrop⟩ := span_writePadded (c := '-') rfl 4 year.natAbs rest
  by_cases hshort : 0 ≤ year ∧ year ≤ 9999
  · have hread : takeNumber? 4 (writePadded 4 year.natAbs ++ '-' :: rest) =
        some (year.natAbs, '-' :: rest) :=
      takeNumber?_writePadded (show year.natAbs < 10000 by omega) (by decide) _
    have hyear : (year.natAbs : Int) = year := by omega
    rw [writeYear, if_pos hshort, takeYear?, dropWhile_isBlank_append (writePadded_ne_nil 4 _)
      fun _ => isDigit_of_mem_writePadded]
    split
    · next heq => exact absurd heq (writePadded_append_ne rfl _ _ _ _)
    · next heq => exact absurd heq (writePadded_append_ne rfl _ _ _ _)
    · simp only [hread, Option.map_some, hyear]
  · rw [writeYear, if_neg hshort]
    by_cases hneg : year < 0
    · have hyear : -(year.natAbs : Int) = year := by omega
      have hblank : isBlank '-' = false := rfl
      generalize year.natAbs = n at htake hdrop hyear ⊢
      simp [takeYear?, hneg, hblank, htake, hdrop, read?_writePadded, hyear]
    · have hyear : (year.natAbs : Int) = year := by omega
      have hblank : isBlank '+' = false := rfl
      generalize year.natAbs = n at htake hdrop hyear ⊢
      simp [takeYear?, hneg, hblank, htake, hdrop, read?_writePadded, hyear]

theorem takeFraction?_writePadded {width n : Nat} (hn : n < Nat.pow 10 width) (hwidth : 0 < width)
    (hle : width ≤ 9) (rest : List Char) :
    takeFraction? ('.' :: (writePadded width n ++ 'Z' :: rest)) =
      some (n * Nat.pow 10 (9 - width), 'Z' :: rest) := by
  have hlength := length_writePadded hn hwidth
  have hall : ∀ c ∈ writePadded width n, c.isDigit = true := fun _ => isDigit_of_mem_writePadded
  have hmark : (('Z' :: rest).take (9 - width)).takeWhile Char.isDigit = [] := by
    cases 9 - width <;> rfl
  have hdigits : ((writePadded width n ++ 'Z' :: rest).take 9).takeWhile Char.isDigit =
      writePadded width n := by
    rw [List.take_append, List.take_of_length_le (by omega), List.takeWhile_append_of_pos hall,
      hlength, hmark, List.append_nil]
  simp only [takeFraction?, hdigits, read?_writePadded, Option.map_some, hlength,
    (span_writePadded (c := 'Z') rfl width n rest).2]

theorem takeFraction?_writeFraction {nanos : Nat} (h : nanos < 1000000000) (rest : List Char) :
    takeFraction? (writeFraction nanos ++ 'Z' :: rest) = some (nanos, 'Z' :: rest) := by
  unfold writeFraction
  split
  · next hzero =>
      rw [hzero]
      rfl
  · split
    · next hmilli =>
        rw [List.cons_append, takeFraction?_writePadded
          (show nanos / 1000000 < 1000 by omega) (by decide) (by decide)]
        have hscaled : nanos / 1000000 * 1000000 = nanos := by omega
        exact congrArg (fun n => some (n, 'Z' :: rest)) hscaled
    · split
      · next hmicro =>
          rw [List.cons_append, takeFraction?_writePadded
            (show nanos / 1000 < 1000000 by omega) (by decide) (by decide)]
          have hscaled : nanos / 1000 * 1000 = nanos := by omega
          exact congrArg (fun n => some (n, 'Z' :: rest)) hscaled
      · rw [List.cons_append, takeFraction?_writePadded (show nanos < 1000000000 from h)
          (by decide) (by decide)]
        have hscaled : nanos * 1 = nanos := by omega
        exact congrArg (fun n => some (n, 'Z' :: rest)) hscaled

/-- A clock of universal time shows the parts of the moment. -/
theorem ofClock?_self (t : Timestamp) :
    ofClock? (t.year, t.month, t.day) t.hour t.minute t.second t.nanos 0 = some t := by
  obtain ⟨hhour, hminute, -, -⟩ := t.isTime
  have hminutes : ((t.hour * 60 + t.minute - 0 : Int)).toNat = t.hour * 60 + t.minute := by omega
  have hself := ofParts?_self t
  simp only [ofClock?, hself, Option.bind_eq_bind, Option.bind_some]
  rw [if_neg (by omega), if_neg (by omega), hminutes]
  have hwhole : (t.hour * 60 + t.minute) / 60 = t.hour := by omega
  have hrest : (t.hour * 60 + t.minute) % 60 = t.minute := by omega
  rw [hwhole, hrest, hself]

theorem lt_of_isDay {year : Int} {month day : Nat} (h : Calendar.isDay year month day = true) :
    month < 100 ∧ day < 100 := by
  simp only [Calendar.isDay, Bool.and_eq_true, decide_eq_true_eq] at h
  have hlast : Calendar.daysInMonth year month ≤ 31 := by
    unfold Calendar.daysInMonth
    split
    · split <;> decide
    · split <;> decide
  omega

/-- A moment that is written reads back. -/
theorem ofText?_toText (t : Timestamp) : ofText? t.toText = some t := by
  obtain ⟨hhour, hminute, hsecond, hnanos⟩ := t.isTime
  obtain ⟨hmonth, hday⟩ := lt_of_isDay t.isDay
  have hdash : isBlank '-' = false := rfl
  have hcolon : isBlank ':' = false := rfl
  have htwo {n : Nat} (hn : n < 100) (rest : List Char) :
      takeNumber? 2 (writePadded 2 n ++ rest) = some (n, rest) :=
    takeNumber?_writePadded hn (by decide) rest
  have hzone : offset? (['Z'].dropWhile isBlank) = some 0 := rfl
  have hseparator : isSeparator 'T' = true := rfl
  rw [ofText?, toText, String.toList_ofList, toChars, writeClock]
  simp only [List.append_assoc, List.cons_append, ofChars?, takeYear?_writeYear,
    Option.bind_eq_bind, Option.bind_some, takeMark?_cons hdash, htwo hmonth, htwo hday]
  rw [if_pos hseparator]
  simp only [htwo (show t.hour < 100 by omega), htwo (show t.minute < 100 by omega),
    htwo (show t.second < 100 by omega), Option.bind_some, takeMark?_cons hcolon,
    takeFraction?_writeFraction hnanos, hzone]
  exact ofClock?_self t

end ContainerFleet.Timestamp
