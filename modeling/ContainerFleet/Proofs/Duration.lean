import ContainerFleet.Duration.Text
import ContainerFleet.Proofs.Text.Blank
import Mathlib

/-!
Spans of time as text: what is written reads back. Main statement: `ofText?_toText`.

A span is written as the sum of its parts, largest unit first. Reading takes the terms apart again
(`takeAll?_writeParts`) and adds them up (`exists_foldlM_addTerm?`); the parts left out because they
are zero would have added nothing.
-/

namespace ContainerFleet

open ContainerFleet.Text

theorem TimeUnit.secs_pos {u : TimeUnit} {k : Nat} (h : u.length = .secs k) : 0 < k := by
  cases u <;> cases h <;> decide

theorem TimeUnit.nanos_pos {u : TimeUnit} {k : Nat} (h : u.length = .nanos k) : 0 < k := by
  cases u <;> cases h <;> decide

namespace Duration

/-! ### Parts as terms -/

/-- How many, the unit, and whether the unit takes an `s` from two on. -/
abbrev Part : Type :=
  Nat × String × Bool

namespace Part

/-- The unit as it is spelled for this many. -/
def spelling (p : Part) : List Char :=
  p.2.1.toList ++ if p.2.2 && decide (1 < p.1) then ['s'] else []

def term (p : Part) : Term :=
  ⟨Decimal.write p.1, none, p.spelling⟩

def unit? (p : Part) : Option TimeUnit :=
  TimeUnit.ofName? p.2.1.toList

/-- The unit's name is one, with an `s` at its end too if it may take one. -/
structure IsNamed (p : Part) : Prop where
  letters : ∀ c ∈ p.2.1.toList, Term.isUnitChar c = true
  known : p.unit?.isSome
  plural : p.2.2 = true → TimeUnit.ofName? (p.2.1.toList ++ ['s']) = p.unit?

/-- The seconds that the part stands for. -/
def secs (p : Part) : Nat :=
  match p.unit?.map TimeUnit.length with
  | some (.secs k) => p.1 * k
  | _ => 0

/-- The nanoseconds that the part stands for. -/
def nanos (p : Part) : Nat :=
  match p.unit?.map TimeUnit.length with
  | some (.nanos k) => p.1 * k
  | _ => 0

variable {p : Part}

theorem IsNamed.ofName?_spelling (h : p.IsNamed) : TimeUnit.ofName? p.spelling = p.unit? := by
  unfold spelling
  split
  · next hs => exact h.plural (by simp_all)
  · rw [List.append_nil, unit?]

theorem IsNamed.isUnitChar_of_mem (h : p.IsNamed) {c : Char} (hc : c ∈ p.spelling) :
    Term.isUnitChar c = true := by
  unfold spelling at hc
  rcases List.mem_append.1 hc with hc | hc
  · exact h.letters c hc
  · split at hc
    · obtain rfl := List.mem_singleton.1 hc
      rfl
    · cases hc

theorem IsNamed.spelling_ne_nil (h : p.IsNamed) : p.spelling ≠ [] := by
  intro hnil
  have hknown := h.known
  rw [← h.ofName?_spelling, hnil] at hknown
  cases hknown

end Part

theorem writePart_eq (p : Part) : writePart p = Decimal.write p.1 ++ p.spelling := by
  obtain ⟨n, unit, plural⟩ := p
  simp [writePart, Part.spelling]

/-! ### Taking the terms apart -/

theorem isNumberChar_of_isUnitChar {c : Char} (h : Term.isUnitChar c = true) :
    Term.isNumberChar c = false := by
  have hnat : (65 ≤ c.toNat ∧ c.toNat ≤ 90) ∨ (97 ≤ c.toNat ∧ c.toNat ≤ 122) ∨ c.toNat = 181 := by
    simp only [Term.isUnitChar, Char.isAlpha, Char.isUpper, Char.isLower, Bool.or_eq_true,
      Bool.and_eq_true, decide_eq_true_eq, beq_iff_eq] at h
    rcases h with (⟨h, h'⟩ | ⟨h, h'⟩) | rfl
    · exact .inl ⟨h, h'⟩
    · exact .inr (.inl ⟨h, h'⟩)
    · exact .inr (.inr rfl)
  have hdigit : c.isDigit = false := by
    rw [Bool.eq_false_iff]
    intro hd
    simp only [Char.isDigit, Bool.and_eq_true, decide_eq_true_eq] at hd
    have : c.toNat ≤ 57 := hd.2
    omega
  rw [Term.isNumberChar, hdigit, Bool.false_or]
  simp only [isBlank, Bool.or_eq_false_iff, Bool.and_eq_false_iff, decide_eq_false_iff_not,
    beq_eq_false_iff_ne]
  omega

theorem takeNumber_write (n : Nat) {c : Char} (hc : Term.isNumberChar c = false)
    (rest : List Char) :
    Term.takeNumber (Decimal.write n ++ c :: rest) = (Decimal.write n, c :: rest) := by
  have hnumber : ∀ d ∈ Decimal.write n, Term.isNumberChar d = true := fun d hd => by
    simp [Term.isNumberChar, Decimal.isDigit_of_mem_write hd]
  have hdigits : (Decimal.write n).filter Char.isDigit = Decimal.write n :=
    List.filter_eq_self.2 fun _ => Decimal.isDigit_of_mem_write
  rw [Term.takeNumber, List.takeWhile_append_of_pos hnumber, List.dropWhile_append_of_pos hnumber]
  simp [hc, hdigits]

theorem take?_writePart {p : Part} (h : p.IsNamed) {rest : List Char}
    (hrest : ∀ c ∈ rest.head?, Term.isUnitChar c = false) :
    Term.take? (writePart p ++ rest) = some (p.term, rest) := by
  have hunit : (p.spelling ++ rest).takeWhile Term.isUnitChar = p.spelling ∧
      (p.spelling ++ rest).dropWhile Term.isUnitChar = rest := by
    rw [List.takeWhile_append_of_pos fun _ => h.isUnitChar_of_mem,
      List.dropWhile_append_of_pos fun _ => h.isUnitChar_of_mem]
    cases rest with
    | nil => simp
    | cons c rest => simp [hrest c rfl]
  cases hspelling : p.spelling with
  | nil => exact absurd hspelling h.spelling_ne_nil
  | cons c letters =>
      have hc : Term.isUnitChar c = true := h.isUnitChar_of_mem (hspelling ▸ List.mem_cons_self)
      have hpoint : c ≠ '.' := by rintro rfl; cases hc
      rw [hspelling] at hunit
      rw [writePart_eq, hspelling, List.append_assoc, List.cons_append, Term.take?,
        takeNumber_write p.1 (isNumberChar_of_isUnitChar hc)]
      simp only [List.cons_append] at hunit
      simp [hpoint, hunit, Decimal.write_ne_nil, Part.term, hspelling]

theorem takeAll?_of_dropWhile {s : List Char} {p : Part} (h : p.IsNamed)
    {rest : List Char} (hs : s.dropWhile isBlank = writePart p ++ rest)
    (hrest : ∀ c ∈ rest.head?, Term.isUnitChar c = false) {terms : List Term}
    (hterms : Term.takeAll? rest = some terms) :
    Term.takeAll? s = some (p.term :: terms) := by
  have htake := take?_writePart h hrest
  have hlength : rest.length < s.length := by
    have hdropped := congrArg List.length hs
    have hshorter := (List.dropWhile_sublist isBlank (l := s)).length_le
    have hwritten := List.length_pos_iff.2 (Decimal.write_ne_nil p.1)
    simp only [writePart_eq, List.length_append] at hdropped
    omega
  obtain ⟨c, digits, hdigits, hc⟩ := Decimal.exists_write_eq_cons p.1
  rw [writePart_eq, hdigits, List.cons_append, List.cons_append] at hs htake
  rw [Term.takeAll?, hs]
  simp only [hc, htake, hlength, hterms, if_true]

/-- The parts as written, with a blank in front of each. -/
def writeParts (parts : List Part) : List Char :=
  parts.flatMap fun p => ' ' :: writePart p

theorem head?_writeParts (parts : List Part) :
    ∀ c ∈ (writeParts parts).head?, Term.isUnitChar c = false := by
  intro c hc
  cases parts with
  | nil => cases hc
  | cons p parts =>
      obtain rfl : ' ' = c := by simpa [writeParts] using hc
      rfl

theorem dropWhile_isBlank_writePart (p : Part) (rest : List Char) :
    (writePart p ++ rest).dropWhile isBlank = writePart p ++ rest := by
  obtain ⟨c, digits, hdigits, hc⟩ := Decimal.exists_write_eq_cons p.1
  rw [writePart_eq, hdigits]
  simp [isBlank_of_isDigit hc]

theorem takeAll?_writeParts {parts : List Part} (h : ∀ p ∈ parts, p.IsNamed) :
    Term.takeAll? (writeParts parts) = some (parts.map Part.term) := by
  induction parts with
  | nil => rw [Term.takeAll?]; rfl
  | cons p parts ih =>
      have hdrop :
          (writeParts (p :: parts)).dropWhile isBlank = writePart p ++ writeParts parts := by
        change (' ' :: (writePart p ++ writeParts parts)).dropWhile isBlank = _
        rw [List.dropWhile_cons_of_pos (by decide), dropWhile_isBlank_writePart]
      exact takeAll?_of_dropWhile (h p List.mem_cons_self) hdrop (head?_writeParts parts)
        (ih fun q hq => h q (List.mem_cons_of_mem p hq))

theorem intercalate_writePart (p : Part) (parts : List Part) :
    List.intercalate [' '] ((p :: parts).map writePart) = writePart p ++ writeParts parts := by
  induction parts generalizing p with
  | nil => simp [writeParts]
  | cons q parts ih =>
      rw [List.map_cons, List.map_cons, List.intercalate_cons_cons, ← List.map_cons, ih]
      simp [writeParts]

/-! ### Adding the terms up -/

theorem word?_of_lt {n : Nat} (h : n < 18446744073709551616) : word? n = some n :=
  if_pos h

theorem addParts?_eq_some {d : Duration} {parts : Nat × Nat}
    (hs : d.secs + parts.1 < 18446744073709551616) (hn : d.nanos + parts.2 < 1000000000) :
    d.addParts? parts = some ⟨d.secs + parts.1, d.nanos + parts.2, hs, hn⟩ := by
  have hword : word? (d.nanos + parts.2) = some (d.nanos + parts.2) := word?_of_lt (by omega)
  rw [addParts?, hword]
  exact ofParts?_self ⟨d.secs + parts.1, d.nanos + parts.2, hs, hn⟩

/-- A unit is a second at least, or a nanosecond at least, so a part counts no fewer of these than
of its unit. -/
theorem partsOf?_unit {p : Part} {u : TimeUnit} (hu : p.unit? = some u)
    (hs : p.secs < 18446744073709551616) (hn : p.nanos < 18446744073709551616) :
    word? p.1 = some p.1 ∧ partsOf? u.length p.1 = some (p.secs, p.nanos) := by
  cases hlength : u.length with
  | secs k =>
      have hsecs : p.secs = p.1 * k := by simp [Part.secs, hu, hlength]
      have hnanos : p.nanos = 0 := by simp [Part.nanos, hu, hlength]
      have hle : p.1 ≤ p.1 * k := Nat.le_mul_of_pos_right p.1 (TimeUnit.secs_pos hlength)
      rw [hsecs] at hs ⊢
      rw [partsOf?, word?_of_lt hs, word?_of_lt (by omega), hnanos]
      exact ⟨rfl, rfl⟩
  | nanos k =>
      have hsecs : p.secs = 0 := by simp [Part.secs, hu, hlength]
      have hnanos : p.nanos = p.1 * k := by simp [Part.nanos, hu, hlength]
      have hle : p.1 ≤ p.1 * k := Nat.le_mul_of_pos_right p.1 (TimeUnit.nanos_pos hlength)
      rw [hnanos] at hn ⊢
      rw [partsOf?, word?_of_lt hn, word?_of_lt (by omega), hsecs]
      exact ⟨rfl, rfl⟩

theorem addTerm?_term {d : Duration} {p : Part} (h : p.IsNamed)
    (hs : d.secs + p.secs < 18446744073709551616) (hn : d.nanos + p.nanos < 1000000000) :
    d.addTerm? p.term = some ⟨d.secs + p.secs, d.nanos + p.nanos, hs, hn⟩ := by
  obtain ⟨u, hu⟩ := Option.isSome_iff_exists.1 h.known
  obtain ⟨hword, hparts⟩ := partsOf?_unit hu (by omega) (by omega)
  have hname : TimeUnit.ofName? p.spelling = some u := h.ofName?_spelling.trans hu
  have hwhole : Decimal.read? (Decimal.write p.1) = some p.1 := Decimal.read?_write p.1
  have hsum : d.addParts? (p.secs, p.nanos) = _ := addParts?_eq_some hs hn
  simp [addTerm?, hname, hwhole, hword, hparts, hsum, Part.term]

theorem exists_foldlM_addTerm? {parts : List Part} (h : ∀ p ∈ parts, p.IsNamed) (d : Duration)
    (hs : d.secs + (parts.map Part.secs).sum < 18446744073709551616)
    (hn : d.nanos + (parts.map Part.nanos).sum < 1000000000) :
    ∃ e, (parts.map Part.term).foldlM addTerm? d = some e ∧
      e.secs = d.secs + (parts.map Part.secs).sum ∧
      e.nanos = d.nanos + (parts.map Part.nanos).sum := by
  induction parts generalizing d with
  | nil => exact ⟨d, rfl, rfl, rfl⟩
  | cons p parts ih =>
      simp only [List.map_cons, List.sum_cons, ← Nat.add_assoc] at hs hn ⊢
      obtain ⟨e, hfold, hsecs, hnanos⟩ := ih (fun q hq => h q (List.mem_cons_of_mem p hq))
        ⟨d.secs + p.secs, d.nanos + p.nanos, by omega, by omega⟩ hs hn
      have hadd := addTerm?_term (d := d) (h p List.mem_cons_self) (by omega) (by omega)
      refine ⟨e, ?_, hsecs, hnanos⟩
      rw [List.foldlM_cons, hadd]
      exact hfold

/-! ### All of a span -/

/-- The names of the units that parts are written in. -/
theorem isNamed_of_mem {p : Part}
    (h : p.2 ∈ [("year", true), ("month", true), ("day", true), ("h", false), ("m", false),
      ("s", false), ("ms", false), ("us", false), ("ns", false)]) : p.IsNamed := by
  have hall : ∀ name ∈ [("year", true), ("month", true), ("day", true), ("h", false), ("m", false),
      ("s", false), ("ms", false), ("us", false), ("ns", false)],
      name.1.toList.all Term.isUnitChar = true ∧ (TimeUnit.ofName? name.1.toList).isSome = true ∧
        (name.2 = true →
          TimeUnit.ofName? (name.1.toList ++ ['s']) = TimeUnit.ofName? name.1.toList) := by
    decide +kernel
  obtain ⟨hletters, hknown, hplural⟩ := hall p.2 h
  exact ⟨List.all_eq_true.1 hletters, hknown, hplural⟩

theorem isNamed_of_mem_writtenParts (d : Duration) : ∀ p ∈ d.writtenParts, Part.IsNamed p := by
  intro p hp
  refine isNamed_of_mem ?_
  have hname : p.2 ∈ d.writtenParts.map Prod.snd := List.mem_map_of_mem hp
  exact hname

theorem writtenUnits :
    ["year", "month", "day", "h", "m", "s", "ms", "us", "ns"].map
      (fun name => (TimeUnit.ofName? name.toList).map TimeUnit.length) =
      [.secs 31557600, .secs 2630016, .secs 86400, .secs 3600, .secs 60, .secs 1,
        .nanos 1000000, .nanos 1000, .nanos 1].map some := by
  decide +kernel

theorem Part.secs_of_length {n k : Nat} {name : String} {plural : Bool}
    (h : (TimeUnit.ofName? name.toList).map TimeUnit.length = some (.secs k)) :
    Part.secs (n, name, plural) = n * k ∧ Part.nanos (n, name, plural) = 0 := by
  unfold secs nanos unit?
  rw [h]
  exact ⟨rfl, rfl⟩

theorem Part.nanos_of_length {n k : Nat} {name : String} {plural : Bool}
    (h : (TimeUnit.ofName? name.toList).map TimeUnit.length = some (.nanos k)) :
    Part.secs (n, name, plural) = 0 ∧ Part.nanos (n, name, plural) = n * k := by
  unfold secs nanos unit?
  rw [h]
  exact ⟨rfl, rfl⟩

theorem sum_map_writtenParts (d : Duration) (f : Part → Nat) :
    (d.writtenParts.map f).sum =
      f (d.secs / 31557600, "year", true) + (f (d.secs % 31557600 / 2630016, "month", true) +
        (f (d.secs % 31557600 % 2630016 / 86400, "day", true) +
          (f (d.secs % 31557600 % 2630016 % 86400 / 3600, "h", false) +
            (f (d.secs % 31557600 % 2630016 % 86400 % 3600 / 60, "m", false) +
              (f (d.secs % 31557600 % 2630016 % 86400 % 60, "s", false) +
                (f (d.nanos / 1000000, "ms", false) +
                  (f (d.nanos / 1000 % 1000, "us", false) +
                    f (d.nanos % 1000, "ns", false)))))))) :=
  rfl

/-- The parts add up to the span. -/
theorem sum_writtenParts (d : Duration) :
    (d.writtenParts.map Part.secs).sum = d.secs ∧
      (d.writtenParts.map Part.nanos).sum = d.nanos := by
  have hunits := writtenUnits
  simp only [List.map_cons, List.map_nil, List.cons.injEq, and_true] at hunits
  obtain ⟨hyear, hmonth, hday, hhour, hminute, hsecond, hmilli, hmicro, hnano⟩ := hunits
  -- The values are rewritten, not computed: the units are too large to be counted out.
  rw [sum_map_writtenParts, sum_map_writtenParts]
  simp only [Part.secs_of_length hyear, Part.secs_of_length hmonth, Part.secs_of_length hday,
    Part.secs_of_length hhour, Part.secs_of_length hminute, Part.secs_of_length hsecond,
    Part.nanos_of_length hmilli, Part.nanos_of_length hmicro, Part.nanos_of_length hnano]
  constructor <;> omega

/-- Parts that are zero count nothing. -/
theorem sum_map_filter {f : Part → Nat} (hf : ∀ p : Part, p.1 = 0 → f p = 0) (parts : List Part) :
    ((parts.filter fun p => p.1 != 0).map f).sum = (parts.map f).sum := by
  induction parts with
  | nil => rfl
  | cons p parts ih =>
      by_cases hp : p.1 = 0
      · rw [List.filter_cons_of_neg (by simp [hp]), ih, List.map_cons, List.sum_cons, hf p hp,
          Nat.zero_add]
      · rw [List.filter_cons_of_pos (by simp [hp]), List.map_cons, List.map_cons, List.sum_cons,
          List.sum_cons, ih]

theorem Part.secs_eq_zero (p : Part) (hp : p.1 = 0) : p.secs = 0 := by
  unfold Part.secs
  split <;> simp [hp]

theorem Part.nanos_eq_zero (p : Part) (hp : p.1 = 0) : p.nanos = 0 := by
  unfold Part.nanos
  split <;> simp [hp]

theorem isBlank_of_isUnitChar {c : Char} (h : Term.isUnitChar c = true) : isBlank c = false := by
  have hnumber := isNumberChar_of_isUnitChar h
  rw [Term.isNumberChar, Bool.or_eq_false_iff] at hnumber
  exact hnumber.2

/-- The parts end with a unit's name, which is not blank. -/
theorem exists_append_getLast {p : Part} {parts : List Part}
    (h : ∀ q ∈ p :: parts, Part.IsNamed q) :
    ∃ front last, writePart p ++ writeParts parts = front ++ [last] ∧ isBlank last = false := by
  induction parts generalizing p with
  | nil =>
      have hp := h p List.mem_cons_self
      have hlast := List.getLast_mem hp.spelling_ne_nil
      refine ⟨Decimal.write p.1 ++ p.spelling.dropLast, p.spelling.getLast hp.spelling_ne_nil, ?_,
        isBlank_of_isUnitChar (hp.isUnitChar_of_mem hlast)⟩
      simp [writeParts, writePart_eq, List.dropLast_concat_getLast]
  | cons q parts ih =>
      obtain ⟨front, last, heq, hlast⟩ := ih fun r hr => h r (List.mem_cons_of_mem p hr)
      refine ⟨writePart p ++ ' ' :: front, last, ?_, hlast⟩
      change writePart p ++ ' ' :: (writePart q ++ writeParts parts) = _
      simp [heq]

theorem trim_writeParts {p : Part} {parts : List Part} (h : ∀ q ∈ p :: parts, Part.IsNamed q) :
    trim (writePart p ++ writeParts parts) = writePart p ++ writeParts parts := by
  obtain ⟨front, last, heq, hlast⟩ := exists_append_getLast h
  rw [trim, dropWhile_isBlank_writePart, heq, dropBlankEnd, List.reverse_append]
  simp [hlast]

theorem ofChars?_writeParts {p : Part} {parts : List Part} (h : ∀ q ∈ p :: parts, Part.IsNamed q) :
    ofChars? (writePart p ++ writeParts parts) =
      ((p :: parts).map Part.term).foldlM addTerm? zero := by
  have hterms : Term.takeAll? (writePart p ++ writeParts parts) =
      some ((p :: parts).map Part.term) :=
    takeAll?_of_dropWhile (h p List.mem_cons_self) (dropWhile_isBlank_writePart p _)
      (head?_writeParts parts) (takeAll?_writeParts fun q hq => h q (List.mem_cons_of_mem p hq))
  have hzero : writePart p ++ writeParts parts ≠ ['0'] := by
    intro hzero
    have hlength := congrArg List.length hzero
    have hdigits := List.length_pos_iff.2 (Decimal.write_ne_nil p.1)
    have hunit := List.length_pos_iff.2 (h p List.mem_cons_self).spelling_ne_nil
    simp only [writePart_eq, List.length_append, List.length_singleton] at hlength
    omega
  rw [ofChars?, if_neg hzero, hterms]
  rfl

theorem ofText?_toText (d : Duration) : ofText? d.toText = some d := by
  rw [ofText?, toText, String.toList_ofList, toChars]
  have hnamed (p : Part) (hp : p ∈ d.writtenParts.filter fun part => part.1 != 0) : p.IsNamed :=
    isNamed_of_mem_writtenParts d p (List.mem_filter.1 hp).1
  have hsecs := (sum_map_filter Part.secs_eq_zero _).trans (sum_writtenParts d).1
  have hnanos := (sum_map_filter Part.nanos_eq_zero _).trans (sum_writtenParts d).2
  cases hparts : d.writtenParts.filter fun part => part.1 != 0 with
  | nil =>
      rw [hparts] at hsecs hnanos
      have hzero : d = zero := ext_parts hsecs.symm hnanos.symm
      rw [hzero]
      decide +kernel
  | cons p parts =>
      rw [hparts] at hnamed hsecs hnanos
      obtain ⟨e, hfold, hesecs, henanos⟩ := exists_foldlM_addTerm? hnamed zero
        (by rw [hsecs]; simpa [zero] using d.secs_lt)
        (by rw [hnanos]; simpa [zero] using d.nanos_lt)
      rw [hsecs] at hesecs
      rw [hnanos] at henanos
      have he : e = d := ext_parts (by simpa [zero] using hesecs) (by simpa [zero] using henanos)
      change ofChars? (trim (List.intercalate [' '] ((p :: parts).map writePart))) = some d
      rw [intercalate_writePart, trim_writeParts hnamed, ofChars?_writeParts hnamed, hfold, he]

/-- A span that is written as one part. -/
theorem ofText?_writePart {p : Part} (h : p.IsNamed) (hs : p.secs < 18446744073709551616)
    (hn : p.nanos < 1000000000) :
    ofText? (String.ofList (writePart p)) = some ⟨p.secs, p.nanos, hs, hn⟩ := by
  have hnamed : ∀ q ∈ [p], Part.IsNamed q := List.forall_mem_singleton.2 h
  have halone : writePart p = writePart p ++ writeParts [] := (List.append_nil _).symm
  obtain ⟨e, hfold, hsecs, hnanos⟩ := exists_foldlM_addTerm? hnamed zero (by simpa [zero] using hs)
    (by simpa [zero] using hn)
  have he : e = ⟨p.secs, p.nanos, hs, hn⟩ :=
    ext_parts (by simpa [zero] using hsecs) (by simpa [zero] using hnanos)
  rw [ofText?, String.toList_ofList, halone, trim_writeParts hnamed, ofChars?_writeParts hnamed,
    hfold, he]

/-- Blanks around a written span make no difference. -/
theorem ofText?_append {before after : List Char} (hbefore : Blank before) (hafter : Blank after)
    (s : String) : ofText? (String.ofList (before ++ (s.toList ++ after))) = ofText? s := by
  rw [ofText?, String.toList_ofList, trim_append hbefore hafter, ofText?]

end Duration

end ContainerFleet
