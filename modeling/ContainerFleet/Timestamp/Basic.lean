/-!
Moments of the civil calendar in universal time, to the nanosecond.
-/

namespace ContainerFleet

namespace Calendar

/-- The years a moment may lie in. -/
def minYear : Int := -262143

def maxYear : Int := 262142

def isLeapYear (year : Int) : Bool :=
  year % 4 == 0 && (year % 100 != 0 || year % 400 == 0)

def daysInMonth (year : Int) (month : Nat) : Nat :=
  if month = 2 then if isLeapYear year then 29 else 28
  else if month = 4 ∨ month = 6 ∨ month = 9 ∨ month = 11 then 30
  else 31

/-- Whether the calendar has this day. -/
def isDay (year : Int) (month day : Nat) : Bool :=
  decide (minYear ≤ year ∧ year ≤ maxYear ∧ 1 ≤ month ∧ month ≤ 12 ∧ 1 ≤ day) &&
    decide (day ≤ daysInMonth year month)

/-- Days from 1970-01-01. Years begin in March here, so that a leap day comes last. -/
def dayNumber (year : Int) (month day : Nat) : Int :=
  let year := if month ≤ 2 then year - 1 else year
  let era := year.fdiv 400
  let yearOfEra := year - era * 400
  let monthFromMarch : Int := if month ≤ 2 then month + 9 else (month : Int) - 3
  let dayOfYear := (153 * monthFromMarch + 2).fdiv 5 + day - 1
  let dayOfEra := yearOfEra * 365 + yearOfEra.fdiv 4 - yearOfEra.fdiv 100 + dayOfYear
  era * 146097 + dayOfEra - 719468

/-- The day with this number. -/
def dayOfNumber (number : Int) : Int × Nat × Nat :=
  let n := number + 719468
  let era := n.fdiv 146097
  let dayOfEra := n - era * 146097
  let yearOfEra :=
    (dayOfEra - dayOfEra.fdiv 1460 + dayOfEra.fdiv 36524 - dayOfEra.fdiv 146096).fdiv 365
  let dayOfYear := dayOfEra - (365 * yearOfEra + yearOfEra.fdiv 4 - yearOfEra.fdiv 100)
  let monthFromMarch := (5 * dayOfYear + 2).fdiv 153
  let day := dayOfYear - (153 * monthFromMarch + 2).fdiv 5 + 1
  let month := if monthFromMarch < 10 then monthFromMarch + 3 else monthFromMarch - 9
  let year := yearOfEra + era * 400
  (if month ≤ 2 then year + 1 else year, month.toNat, day.toNat)

def nextDay (year : Int) (month day : Nat) : Int × Nat × Nat :=
  if day < daysInMonth year month then (year, month, day + 1)
  else if month < 12 then (year, month + 1, 1)
  else (year + 1, 1, 1)

def previousDay (year : Int) (month day : Nat) : Int × Nat × Nat :=
  if 1 < day then (year, month, day - 1)
  else if 1 < month then (year, month - 1, daysInMonth year (month - 1))
  else (year - 1, 12, 31)

end Calendar

/-- A moment in universal time. Second 60 is a leap second. -/
structure Timestamp where
  year : Int
  month : Nat
  day : Nat
  hour : Nat
  minute : Nat
  second : Nat
  nanos : Nat
  isDay : Calendar.isDay year month day = true
  isTime : hour < 24 ∧ minute < 60 ∧ second ≤ 60 ∧ nanos < 1000000000
deriving DecidableEq, Repr

namespace Timestamp

def epoch : Timestamp :=
  ⟨1970, 1, 1, 0, 0, 0, 0, by decide, by decide⟩

instance : Inhabited Timestamp := ⟨epoch⟩

/-- The moment with these parts, if there is one. -/
def ofParts? (date : Int × Nat × Nat) (hour minute second nanos : Nat) : Option Timestamp :=
  if hd : Calendar.isDay date.1 date.2.1 date.2.2 = true then
    if ht : hour < 24 ∧ minute < 60 ∧ second ≤ 60 ∧ nanos < 1000000000 then
      some ⟨date.1, date.2.1, date.2.2, hour, minute, second, nanos, hd, ht⟩
    else none
  else none

theorem ofParts?_self (t : Timestamp) :
    ofParts? (t.year, t.month, t.day) t.hour t.minute t.second t.nanos = some t := by
  simp only [ofParts?, t.isDay, dif_pos, t.isTime, and_self]

/-- The moment of a clock that shows these parts while it is `offset` minutes ahead of universal
time. -/
def ofClock? (date : Int × Nat × Nat) (hour minute second nanos : Nat) (offset : Int) :
    Option Timestamp := do
  let shown ← ofParts? date hour minute second nanos
  let minutes : Int := shown.hour * 60 + shown.minute - offset
  let ofDay (date : Int × Nat × Nat) (minutes : Int) : Option Timestamp :=
    ofParts? date (minutes.toNat / 60) (minutes.toNat % 60) second nanos
  if minutes < 0 then ofDay (Calendar.previousDay date.1 date.2.1 date.2.2) (minutes + 1440)
  else if 1440 ≤ minutes then ofDay (Calendar.nextDay date.1 date.2.1 date.2.2) (minutes - 1440)
  else ofDay date minutes

/-- Nanoseconds since the epoch. -/
def sinceEpoch (t : Timestamp) : Int :=
  (Calendar.dayNumber t.year t.month t.day * 86400 + t.hour * 3600 + t.minute * 60 + t.second)
    * 1000000000 + t.nanos

/-- The moment some nanoseconds after the epoch; the epoch itself when no year holds it. -/
def ofSinceEpoch (nanos : Int) : Timestamp :=
  let secs := nanos.fdiv 1000000000
  let days := secs.fdiv 86400
  let inDay := (secs - days * 86400).toNat
  (ofParts? (Calendar.dayOfNumber days) (inDay / 3600) (inDay % 3600 / 60) (inDay % 60)
    (nanos - secs * 1000000000).toNat).getD epoch

end Timestamp

end ContainerFleet
