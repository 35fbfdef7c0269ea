import ContainerFleet.Timestamp.Basic
import ContainerFleet.Text.Blank
import ContainerFleet.Text.Decimal

/-!
Moments as text by RFC 3339, read leniently, where numbers may be short and blanks may stand between
the parts, or exactly. Written in universal time with as many digits of the second as needed, in
threes.
-/

namespace ContainerFleet.Timestamp

open ContainerFleet.Text

/-- A number of at most `width` digits at the front, after blanks. -/
def takeNumber? (width : Nat) (s : List Char) : Option (Nat × List Char) :=
  let s := s.dropWhile isBlank
  let digits := (s.take width).takeWhile Char.isDigit
  (Decimal.read? digits).map (·, s.drop digits.length)

/-- A year: four digits at most, or a sign and any number of digits. -/
def takeYear? (s : List Char) : Option (Int × List Char) :=
  match s.dropWhile isBlank with
  | '-' :: rest =>
    (Decimal.read? (rest.takeWhile Char.isDigit)).map fun n =>
      (-(n : Int), rest.dropWhile Char.isDigit)
  | '+' :: rest =>
    (Decimal.read? (rest.takeWhile Char.isDigit)).map fun n =>
      ((n : Int), rest.dropWhile Char.isDigit)
  | s => (takeNumber? 4 s).map fun (n, rest) => ((n : Int), rest)

/-- This mark at the front, with blanks before it. -/
def takeMark? (mark : Char) (s : List Char) : Option (List Char) :=
  match s.dropWhile isBlank with
  | c :: rest => if c = mark then some rest else none
  | [] => none

/-- The fraction of a second in nanoseconds; digits beyond the ninth are cut. -/
def takeFraction? (s : List Char) : Option (Nat × List Char) :=
  match s with
  | '.' :: rest =>
    let digits := (rest.take 9).takeWhile Char.isDigit
    (Decimal.read? digits).map fun n =>
      (n * Nat.pow 10 (9 - digits.length), rest.dropWhile Char.isDigit)
  | s => some (0, s)

/-- The distance from universal time in minutes, less than a day; the text ends after it. -/
def offset? (s : List Char) : Option Int :=
  let clock (rest : List Char) : Option Nat :=
    match rest with
    | a :: b :: rest =>
      match Decimal.read? [a, b], rest.dropWhile fun c => c == ':' || isBlank c with
      | some hours, [c, d] =>
        match Decimal.read? [c, d] with
        | some minutes => if hours < 24 ∧ minutes < 60 then some (hours * 60 + minutes) else none
        | none => none
      | _, _ => none
    | _ => none
  match s with
  | ['Z'] => some 0
  | ['z'] => some 0
  | '+' :: rest => (clock rest).map fun n => (n : Int)
  | '-' :: rest => (clock rest).map fun n => -(n : Int)
  | '−' :: rest => (clock rest).map fun n => -(n : Int)
  | s => if s.map Char.toLower = ['u', 't', 'c'] then some 0 else none

/-- Whether a character may stand between the date and the time. -/
def isSeparator (c : Char) : Bool :=
  c == 'T' || c == 't' || c == ' '

def ofChars? (s : List Char) : Option Timestamp := do
  let (year, s) ← takeYear? s
  let s ← takeMark? '-' s
  let (month, s) ← takeNumber? 2 s
  let s ← takeMark? '-' s
  let (day, s) ← takeNumber? 2 s
  let s ← match s with
    | c :: rest => if isSeparator c then some rest else none
    | [] => none
  let (hour, s) ← takeNumber? 2 s
  let s ← takeMark? ':' s
  let (minute, s) ← takeNumber? 2 s
  let s ← takeMark? ':' s
  let (second, s) ← takeNumber? 2 s
  let (nanos, s) ← takeFraction? s
  let offset ← offset? (s.dropWhile isBlank)
  ofClock? (year, month, day) hour minute second nanos offset

def ofText? (s : String) : Option Timestamp :=
  ofChars? s.toList

/-- Whether a text has a shape, in which a zero stands for any digit. -/
def fitsShape (shape s : List Char) : Bool :=
  s.length == shape.length &&
    (s.zip shape).all fun (c, mark) => if mark = '0' then c.isDigit else c == mark

/-- Whether a text is a zone as RFC 3339 writes it. -/
def isExactZone (s : List Char) : Bool :=
  match s with
  | ['Z'] => true
  | ['z'] => true
  | sign :: clock =>
    (sign == '+' || sign == '-' || sign == '−') && fitsShape "00:00".toList clock
  | [] => false

/-- Whether a text is written exactly by RFC 3339. -/
def isExact (s : List Char) : Bool :=
  let zone :=
    match s.drop 19 with
    | '.' :: rest => rest.dropWhile Char.isDigit
    | rest => rest
  fitsShape "0000-00-00".toList (s.take 10) && ((s.drop 10).take 1).all isSeparator &&
    fitsShape "00:00:00".toList ((s.drop 11).take 8) && isExactZone zone

/-- The moment in a text that is written exactly. -/
def ofExactText? (s : String) : Option Timestamp :=
  if isExact s.toList then ofChars? s.toList else none

/-- A year: four digits, and a sign when these do not hold it. -/
def writeYear (year : Int) : List Char :=
  if 0 ≤ year ∧ year ≤ 9999 then Decimal.writePadded 4 year.natAbs
  else (if year < 0 then '-' else '+') :: Decimal.writePadded 4 year.natAbs

/-- The fraction of a second with none, three, six or nine digits, as few as hold it. -/
def writeFraction (nanos : Nat) : List Char :=
  if nanos = 0 then []
  else if nanos % 1000000 = 0 then '.' :: Decimal.writePadded 3 (nanos / 1000000)
  else if nanos % 1000 = 0 then '.' :: Decimal.writePadded 6 (nanos / 1000)
  else '.' :: Decimal.writePadded 9 nanos

/-- Date and time without the mark of the zone. -/
def writeClock (t : Timestamp) : List Char :=
  writeYear t.year ++ '-' :: Decimal.writePadded 2 t.month ++ '-' :: Decimal.writePadded 2 t.day
    ++ 'T' :: Decimal.writePadded 2 t.hour ++ ':' :: Decimal.writePadded 2 t.minute
    ++ ':' :: Decimal.writePadded 2 t.second ++ writeFraction t.nanos

def toChars (t : Timestamp) : List Char :=
  t.writeClock ++ ['Z']

def toText (t : Timestamp) : String :=
  String.ofList t.toChars

/-- Date and time to the second, as people read them. -/
def toPlainText (t : Timestamp) : String :=
  String.ofList (writeYear t.year ++ '-' :: Decimal.writePadded 2 t.month
    ++ '-' :: Decimal.writePadded 2 t.day ++ ' ' :: Decimal.writePadded 2 t.hour
    ++ ':' :: Decimal.writePadded 2 t.minute ++ ':' :: Decimal.writePadded 2 t.second)

end ContainerFleet.Timestamp
