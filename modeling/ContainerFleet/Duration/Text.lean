import ContainerFleet.Duration.Basic
import ContainerFleet.Duration.Unit
import ContainerFleet.Text.Blank
import ContainerFleet.Text.Decimal

/-!
Spans of time as text: terms such as `1h 30m` or `2.5days`, added up. Blanks may stand around
terms, between the digits of a number and before the unit.
-/

namespace ContainerFleet.Duration

open ContainerFleet.Text

/-- One term of a written span: a number, the digits after the point if there is one, and the
name of the unit. -/
structure Term where
  whole : List Char
  fraction : Option (List Char)
  unit : List Char
deriving DecidableEq, Repr

namespace Term

/-- The characters that a unit's name is made of. -/
def isUnitChar (c : Char) : Bool :=
  c.isAlpha || c == 'µ'

/-- The characters of a number: digits, with blanks between them. -/
def isNumberChar (c : Char) : Bool :=
  c.isDigit || isBlank c

/-- The digits of a number at the front of the text, and the rest. -/
def takeNumber (s : List Char) : List Char × List Char :=
  ((s.takeWhile isNumberChar).filter Char.isDigit, s.dropWhile isNumberChar)

/-- Reads the term that starts at the front of the text. -/
def take? (s : List Char) : Option (Term × List Char) :=
  let (whole, rest) := takeNumber s
  let (fraction, rest) : Option (List Char) × List Char :=
    match rest with
    | '.' :: tail =>
      let (digits, rest) := takeNumber tail
      (some digits, rest)
    | rest => (none, rest)
  let unit := rest.takeWhile isUnitChar
  if whole.isEmpty || fraction == some [] || unit.isEmpty then none
  else some (⟨whole, fraction, unit⟩, rest.dropWhile isUnitChar)

/-- All terms of a text that holds nothing else. -/
def takeAll? (s : List Char) : Option (List Term) :=
  match s.dropWhile isBlank with
  | [] => some []
  | c :: tail =>
    if c.isDigit then
      match take? (c :: tail) with
      | none => none
      | some (term, rest) =>
        if rest.length < s.length then
          match takeAll? rest with
          | none => none
          | some terms => some (term :: terms)
        else none
    else none
termination_by s.length

end Term

/-- The number when 64 bits hold it. -/
def word? (n : Nat) : Option Nat :=
  if n < 18446744073709551616 then some n else none

/-- A number with its unit, in seconds and nanoseconds; one of them is zero. -/
def partsOf? (length : TimeUnit.Length) (n : Nat) : Option (Nat × Nat) :=
  match length with
  | .secs k => (word? (n * k)).map (·, 0)
  | .nanos k => (word? (n * k)).map (0, ·)

/-- The fraction `numerator / denominator` of a unit, when it comes out even. -/
def fractionParts? (length : TimeUnit.Length) (numerator denominator : Nat) : Option (Nat × Nat) := do
  let exact (n : Nat) : Option Nat := if n % denominator = 0 then some (n / denominator) else none
  match length with
  | .secs k => return (← exact (← word? (numerator * k)), 0)
  | .nanos k => return (0, ← exact (← word? (numerator * k)))

/-- A span and some more seconds and nanoseconds, as long as every sum fits 64 bits. -/
def addParts? (d : Duration) (parts : Nat × Nat) : Option Duration := do
  let nanos ← word? (d.nanos + parts.2)
  ofParts? (d.secs + parts.1) nanos

/-- A span and one more term. -/
def addTerm? (d : Duration) (term : Term) : Option Duration := do
  let unit ← TimeUnit.ofName? term.unit
  let whole ← word? (← Decimal.read? term.whole)
  let sum ← d.addParts? (← partsOf? unit.length whole)
  match term.fraction with
  | none => return sum
  | some digits =>
    let denominator ← word? (Nat.pow 10 digits.length)
    let numerator ← word? (← Decimal.read? digits)
    sum.addParts? (← fractionParts? (← unit.fractionLength?) numerator denominator)

/-- Reads a written span of time; `0` alone needs no unit. -/
def ofChars? (s : List Char) : Option Duration :=
  if s = ['0'] then some zero
  else
    match Term.takeAll? s with
    | none => none
    | some [] => none
    | some terms => terms.foldlM addTerm? zero

/-- Reads a span of time that may have blanks around it. -/
def ofText? (s : String) : Option Duration :=
  ofChars? (trim s.toList)

/-- The parts in which a span is written, largest first: how many, the unit, and whether the unit
takes an `s` from two on. -/
def writtenParts (d : Duration) : List (Nat × String × Bool) :=
  let inYear := d.secs % 31557600
  let inMonth := inYear % 2630016
  let inDay := inMonth % 86400
  [(d.secs / 31557600, "year", true), (inYear / 2630016, "month", true),
    (inMonth / 86400, "day", true), (inDay / 3600, "h", false), (inDay % 3600 / 60, "m", false),
    (inDay % 60, "s", false), (d.nanos / 1000000, "ms", false),
    (d.nanos / 1000 % 1000, "us", false), (d.nanos % 1000, "ns", false)]

/-- One part as written. -/
def writePart : Nat × String × Bool → List Char
  | (n, unit, plural) =>
    Decimal.write n ++ unit.toList ++ if plural && decide (1 < n) then ['s'] else []

/-- The parts that are not zero, a blank between them; `0s` when there is none. -/
def toChars (d : Duration) : List Char :=
  match d.writtenParts.filter (fun part => part.1 != 0) with
  | [] => ['0', 's']
  | parts => List.intercalate [' '] (parts.map writePart)

def toText (d : Duration) : String :=
  String.ofList d.toChars

instance : ToString Duration := ⟨toText⟩

end ContainerFleet.Duration
