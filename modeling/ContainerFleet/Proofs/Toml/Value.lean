import ContainerFleet.Proofs.Toml.Text
import ContainerFleet.Toml.Reader
import Mathlib.Data.List.Basic

/-!
Plain values of a TOML document: what is written reads back. Main statement: `value?_of_plain?`.

Dates and numbers with a point or an exponent are tried before integers are, so for digits up to the
end of a line each of those readers has to give up.
-/

namespace ContainerFleet

theorem Text.Decimal.write_eq_of_zero_first {n : Nat} {digits : List Char}
    (h : Text.Decimal.write n = '0' :: digits) : digits = [] := by
  induction n using Nat.strongRecOn generalizing digits with
  | ind n ih =>
      unfold Text.Decimal.write at ih h
      rw [Nat.toDigits_eq_if (by decide)] at h
      split at h
      · exact (List.cons.inj h).2.symm
      · next hn =>
          cases hshort : Nat.toDigits 10 (n / 10) with
          | nil => exact absurd hshort Nat.toDigits_ne_nil
          | cons c more =>
              rw [hshort, List.cons_append] at h
              obtain ⟨rfl, -⟩ := List.cons.inj h
              have hzero : Nat.toDigits 10 (n / 10) = Nat.toDigits 10 0 := by
                rw [hshort, ih (n / 10) (by omega) hshort, Nat.toDigits_zero]
              have hvalue := congrArg (Nat.ofDigitChars 10 · 0) hzero
              simp only [Nat.ofDigitChars_ten_toDigits] at hvalue
              omega

namespace Toml

open ContainerFleet.Text

/-! ### Digits up to the end of a line -/

section Digits

variable {digits : List Char} (hdigits : ∀ c ∈ digits, c.isDigit = true) (rest : List Char)

include hdigits

theorem fixedNumber?_digits {width low high m : Nat} {t : List Char}
    (h : fixedNumber? width low high (digits ++ '\n' :: rest) = some (m, t)) :
    ∃ more, t = more ++ '\n' :: rest ∧ ∀ c ∈ more, c.isDigit = true := by
  obtain ⟨n, hread, ht⟩ : ∃ n, Decimal.read? ((digits ++ '\n' :: rest).take width) = some n ∧
      t = (digits ++ '\n' :: rest).drop width := by
    unfold fixedNumber? at h
    dsimp only at h
    split at h
    · obtain ⟨n, hread, h⟩ := Option.bind_eq_some_iff.1 h
      split at h
      · cases h
        exact ⟨_, hread, rfl⟩
      · cases h
    · cases h
  by_cases hwidth : width ≤ digits.length
  · refine ⟨digits.drop width, ?_, fun c hc => hdigits c (List.mem_of_mem_drop hc)⟩
    rw [ht, List.drop_append_of_le_length hwidth]
  · -- The end of the line is among the characters to read.
    have hfeed : '\n' ∈ (digits ++ '\n' :: rest).take width := by
      obtain ⟨k, hk⟩ : ∃ k, width - digits.length = k + 1 := ⟨width - digits.length - 1, by omega⟩
      rw [List.take_append, hk, List.take_succ_cons]
      simp
    have hall : ((digits ++ '\n' :: rest).take width).all Char.isDigit = false :=
      List.all_eq_false.2 ⟨'\n', hfeed, by decide⟩
    simp [Decimal.read?, hall] at hread

theorem char?_digits {c : Char} (hc : c.isDigit = false) (hfeed : c ≠ '\n') :
    char? c (digits ++ '\n' :: rest) = none := by
  cases digits with
  | nil => exact if_neg (Ne.symm hfeed)
  | cons d digits =>
      have hd := hdigits d List.mem_cons_self
      exact if_neg (by rintro rfl; cases hc.symm.trans hd)

theorem date?_digits : date? (digits ++ '\n' :: rest) = none := by
  cases hyear : fixedNumber? 4 0 9999 (digits ++ '\n' :: rest) with
  | none => simp [date?, hyear]
  | some read =>
      obtain ⟨more, hmore, hall⟩ := fixedNumber?_digits hdigits rest hyear
      have hmark : char? '-' read.2 = none := by
        rw [hmore]
        exact char?_digits hall rest rfl (by decide)
      simp [date?, hyear, hmark]

theorem time?_digits : time? (digits ++ '\n' :: rest) = none := by
  cases hhour : fixedNumber? 2 0 23 (digits ++ '\n' :: rest) with
  | none => simp [time?, hhour]
  | some read =>
      obtain ⟨more, hmore, hall⟩ := fixedNumber?_digits hdigits rest hhour
      have hmark : char? ':' read.2 = none := by
        rw [hmore]
        exact char?_digits hall rest rfl (by decide)
      simp [time?, hhour, hmark]

theorem datetime?_digits : datetime? (digits ++ '\n' :: rest) = none := by
  simp [datetime?, date?_digits hdigits rest, time?_digits hdigits rest]

theorem digits?_digits (hne : digits ≠ []) :
    digits? Char.isDigit (digits ++ '\n' :: rest) = some (digits, '\n' :: rest) := by
  induction digits with
  | nil => exact absurd rfl hne
  | cons c digits ih =>
      rw [List.forall_mem_cons] at hdigits
      cases digits with
      | nil => simp [digits?, hdigits.1]
      | cons d digits =>
          have hd := hdigits.2 d List.mem_cons_self
          have hmark : d ≠ '_' := by rintro rfl; cases hd
          have hmore := ih hdigits.2 (List.cons_ne_nil d digits)
          rw [List.cons_append] at hmore
          rw [List.cons_append, List.cons_append, digits?, if_pos hdigits.1]
          · simp [hd, hmore]
          · exact fun _ heq => hmark (List.cons.inj heq).1

theorem valueIn_ten : valueIn 10 digits = Nat.ofDigitChars 10 digits 0 := by
  rw [valueIn, Nat.ofDigitChars_eq_foldl]
  refine List.foldl_ext _ _ 0 fun n c hc => ?_
  have hc := hdigits c hc
  simp only [Char.isDigit, Bool.and_eq_true, decide_eq_true_eq] at hc
  have hvalue : Json.Reader.hexValue? c = some (c.toNat - '0'.toNat) := if_pos hc
  rw [hvalue, Option.getD_some, Nat.mul_comm]

end Digits

/-! ### Integers -/

/-- An integer as it is written. -/
def writeInt (n : Int) : List Char :=
  if n < 0 then '-' :: Decimal.write n.natAbs else Decimal.write n.natAbs

section Integers

variable {sign : List Char} (hsign : sign = [] ∨ sign = ['-']) (n : Nat) (rest : List Char)

include hsign

/-- A written number has no zeros in front, so a zero is all of it. -/
theorem decimal?_write :
    decimal? (sign ++ (Decimal.write n ++ '\n' :: rest)) =
      some (sign, Decimal.write n, '\n' :: rest) := by
  have hdigits : ∀ c ∈ Decimal.write n, c.isDigit = true := fun _ => Decimal.isDigit_of_mem_write
  have hread := digits?_digits hdigits rest (Decimal.write_ne_nil n)
  obtain ⟨c, digits, hwritten, hc⟩ := Decimal.exists_write_eq_cons n
  rw [hwritten, List.cons_append] at hread
  rw [hwritten]
  have hplus : c ≠ '+' := by rintro rfl; cases hc
  have hminus : c ≠ '-' := by rintro rfl; cases hc
  by_cases hzero : c = '0'
  · subst hzero
    obtain rfl := Decimal.write_eq_of_zero_first hwritten
    rcases hsign with rfl | rfl <;> rfl
  · rcases hsign with rfl | rfl <;> simp [decimal?, hplus, hminus, hzero, hread]

theorem datetime?_write : datetime? (sign ++ (Decimal.write n ++ '\n' :: rest)) = none := by
  rcases hsign with rfl | rfl
  · exact datetime?_digits (fun _ => Decimal.isDigit_of_mem_write) rest
  · have hnone (width low high : Nat) (s : List Char) :
        fixedNumber? (width + 1) low high ('-' :: s) = none := by
      simp [fixedNumber?, Decimal.read?]
    simp [datetime?, date?, time?, hnone]

theorem float?_write : float? (sign ++ (Decimal.write n ++ '\n' :: rest)) = none := by
  have hread := decimal?_write hsign n rest
  obtain ⟨c, digits, hwritten, hc⟩ := Decimal.exists_write_eq_cons n
  have hplus : c ≠ '+' := by rintro rfl; cases hc
  have hminus : c ≠ '-' := by rintro rfl; cases hc
  have hi : c ≠ 'i' := by rintro rfl; cases hc
  have hn : c ≠ 'n' := by rintro rfl; cases hc
  rw [hwritten] at hread ⊢
  rcases hsign with rfl | rfl
  · simp only [List.nil_append, List.cons_append] at hread ⊢
    simp [float?, hread, hplus, hminus, hi, hn]
  · simp only [List.nil_append, List.cons_append] at hread ⊢
    simp [float?, hread, hi, hn]

theorem second_of_zero_first {c : Char} {t : List Char}
    (h : sign ++ (Decimal.write n ++ '\n' :: rest) = '0' :: c :: t) : c = '\n' := by
  rcases hsign with rfl | rfl
  · obtain ⟨d, digits, hwritten, -⟩ := Decimal.exists_write_eq_cons n
    rw [hwritten, List.nil_append, List.cons_append] at h
    obtain ⟨rfl, htail⟩ := List.cons.inj h
    rw [Decimal.write_eq_of_zero_first hwritten] at htail
    exact (List.cons.inj htail).1.symm
  · cases (List.cons.inj h).1

theorem integer?_write : integer? (sign ++ (Decimal.write n ++ '\n' :: rest)) =
    (bounded? (if sign = ['-'] then -(n : Int) else n)).map (·, '\n' :: rest) := by
  have hread := decimal?_write hsign n rest
  have hvalue : valueIn 10 (Decimal.write n) = n := by
    rw [valueIn_ten fun _ => Decimal.isDigit_of_mem_write]
    exact Nat.ofDigitChars_ten_toDigits
  have hsecond {c : Char} {t : List Char} := second_of_zero_first hsign n rest (c := c) (t := t)
  unfold integer?
  split
  · next heq => cases hsecond heq
  · next heq => cases hsecond heq
  · next heq => cases hsecond heq
  · rw [hread]
    simp only [Option.bind_eq_bind, Option.bind_some, hvalue]
    cases bounded? (if sign = ['-'] then -(n : Int) else n) <;> rfl

end Integers

theorem value?_number (depth : Nat) {c : Char} (hc : c = '-' ∨ c.isDigit = true) (s : List Char) :
    value? depth (c :: s) =
      ((datetime? (c :: s)).orElse fun _ => float? (c :: s)).orElse fun _ => integer? (c :: s) := by
  have hne {d : Char} (hminus : d ≠ '-') (hdigit : d.isDigit = false) : c ≠ d := by
    rintro rfl
    rcases hc with rfl | hc
    · exact hminus rfl
    · cases hdigit.symm.trans hc
  have hquotes : ¬ (c = '"' ∨ c = '\'') := not_or.2 ⟨hne (by decide) rfl, hne (by decide) rfl⟩
  rw [value?.eq_def]
  dsimp only
  rw [if_neg hquotes, if_neg (hne (by decide) rfl), if_neg (hne (by decide) rfl),
    if_neg (hne (by decide) rfl), if_neg (hne (by decide) rfl)]

theorem value?_writeInt (depth : Nat) {n : Int} (hlow : -9223372036854775808 ≤ n)
    (hhigh : n < 9223372036854775808) (rest : List Char) :
    value? depth (writeInt n ++ '\n' :: rest) = some (.int n, '\n' :: rest) := by
  obtain ⟨sign, hsign, hn, hwritten⟩ : ∃ sign : List Char, (sign = [] ∨ sign = ['-']) ∧
      (if sign = ['-'] then -(n.natAbs : Int) else n.natAbs) = n ∧
      writeInt n = sign ++ Decimal.write n.natAbs := by
    by_cases hneg : n < 0
    · exact ⟨['-'], .inr rfl, by rw [if_pos rfl]; omega, by rw [writeInt, if_pos hneg]; rfl⟩
    · exact ⟨[], .inl rfl, by rw [if_neg (by decide)]; omega, by rw [writeInt, if_neg hneg]; rfl⟩
  have hbounded : bounded? n = some (.int n) := if_pos ⟨hlow, hhigh⟩
  have hinteger := integer?_write hsign n.natAbs rest
  rw [hn, hbounded, Option.map_some] at hinteger
  obtain ⟨c, more, hcons, hc⟩ : ∃ c more, sign ++ (Decimal.write n.natAbs ++ '\n' :: rest) =
      c :: more ∧ (c = '-' ∨ c.isDigit = true) := by
    rcases hsign with rfl | rfl
    · obtain ⟨c, digits, hdigits, hc⟩ := Decimal.exists_write_eq_cons n.natAbs
      exact ⟨c, _, by rw [hdigits]; rfl, .inr hc⟩
    · exact ⟨'-', _, rfl, .inl rfl⟩
  rw [hwritten, List.append_assoc, hcons, value?_number depth hc, ← hcons, datetime?_write hsign,
    float?_write hsign, hinteger]
  rfl

/-! ### Plain values -/

namespace Item

/-- The value of an item that is no table. -/
def plainValue? : Item → Option Value
  | str s => some (.str s)
  | int n => some (.int n)
  | bool b => some (.bool b)
  | table _ => none

/-- An integer that 64 bits hold. -/
def InRange : Item → Prop
  | int n => -9223372036854775808 ≤ n ∧ n < 9223372036854775808
  | _ => True

@[simp]
theorem plainValue?_str (s : String) : (str s).plainValue? = some (.str s) := rfl

@[simp]
theorem plainValue?_int (n : Int) : (int n).plainValue? = some (.int n) := rfl

@[simp]
theorem plainValue?_bool (b : Bool) : (bool b).plainValue? = some (.bool b) := rfl

@[simp]
theorem isTable_str (s : String) : (str s).isTable = false := rfl

@[simp]
theorem isTable_int (n : Int) : (int n).isTable = false := rfl

@[simp]
theorem isTable_bool (b : Bool) : (bool b).isTable = false := rfl

theorem plainValue?_eq_none_iff {item : Item} : item.plainValue? = none ↔ item.isTable = true := by
  cases item <;> simp [plainValue?, isTable]

end Item

theorem value?_text (depth : Nat) {s text rest : List Char} {c : Char}
    (hc : c = '"' ∨ c = '\'') (h : text? (c :: s) = some (text, rest)) :
    value? depth (c :: s) = some (.str (String.ofList text), rest) := by
  rw [value?.eq_def]
  dsimp only
  rw [if_pos hc, h]
  rfl

theorem exists_writeText_eq_cons (s : List Char) :
    ∃ c rest, writeText s = c :: rest ∧ (c = '"' ∨ c = '\'') := by
  unfold writeText
  dsimp only
  split
  · split
    · exact ⟨_, _, rfl, .inr rfl⟩
    · split
      · exact ⟨_, _, rfl, .inr rfl⟩
      · exact ⟨_, _, rfl, .inr rfl⟩
  · split
    · exact ⟨_, _, rfl, .inl rfl⟩
    · exact ⟨_, _, rfl, .inl rfl⟩

/-- A plain value reads back from the end of a line. -/
theorem value?_of_plain? (depth : Nat) {item : Item} (hrange : item.InRange) {text : List Char}
    (htext : item.plain? = some text) (rest : List Char) :
    ∃ v, item.plainValue? = some v ∧
      value? depth (text ++ '\n' :: rest) = some (v, '\n' :: rest) := by
  cases item with
  | str s =>
      cases htext
      obtain ⟨c, more, hcons, hc⟩ := exists_writeText_eq_cons s.toList
      have hread := text?_writeText s.toList rest
      rw [hcons, List.cons_append] at hread
      refine ⟨.str s, rfl, ?_⟩
      rw [hcons, List.cons_append, value?_text depth hc hread, String.ofList_toList]
  | int n =>
      cases htext
      exact ⟨.int n, rfl, value?_writeInt depth hrange.1 hrange.2 rest⟩
  | bool b =>
      refine ⟨.bool b, rfl, ?_⟩
      have hlengths : "true".length = 4 ∧ "false".length = 5 := ⟨rfl, rfl⟩
      cases b <;> cases htext <;> simp [value?.eq_def, word?, hlengths]
  | table entries => cases htext

/-- A plain value does not start with a blank. -/
theorem exists_plain?_eq_cons {item : Item} {text : List Char} (h : item.plain? = some text) :
    ∃ c rest, text = c :: rest ∧ isSpace c = false := by
  have hnumber (n : Nat) : ∃ c rest, Decimal.write n = c :: rest ∧ isSpace c = false := by
    obtain ⟨c, digits, hdigits, hc⟩ := Decimal.exists_write_eq_cons n
    refine ⟨c, digits, hdigits, Bool.eq_false_iff.2 fun hspace => ?_⟩
    rw [isSpace, Bool.or_eq_true, beq_iff_eq, beq_iff_eq] at hspace
    rcases hspace with rfl | rfl <;> cases hc
  cases item with
  | str s =>
      cases h
      obtain ⟨c, rest, hcons, rfl | rfl⟩ := exists_writeText_eq_cons s.toList
      · exact ⟨_, rest, hcons, rfl⟩
      · exact ⟨_, rest, hcons, rfl⟩
  | int n =>
      obtain rfl := Option.some.inj h
      split
      · exact ⟨_, _, rfl, rfl⟩
      · exact hnumber _
  | bool b => cases b <;> cases h <;> exact ⟨_, _, rfl, rfl⟩
  | table entries => cases h

end Toml

end ContainerFleet
