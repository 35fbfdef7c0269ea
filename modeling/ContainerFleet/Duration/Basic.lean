import ContainerFleet.Number.Binary64

/-!
Spans of time: whole seconds in 64 bits and a rest in nanoseconds. Half again as much of a span is
computed in binary floating point.
-/

namespace ContainerFleet

/-- A span of time that is not negative. -/
structure Duration where
  secs : Nat
  nanos : Nat
  secs_lt : secs < 18446744073709551616
  nanos_lt : nanos < 1000000000
deriving DecidableEq, Repr

namespace Duration

theorem ext_parts {d e : Duration} (hs : d.secs = e.secs) (hn : d.nanos = e.nanos) : d = e := by
  cases d; cases e; simp_all

def zero : Duration := ⟨0, 0, by decide, by decide⟩

instance : Inhabited Duration := ⟨zero⟩

theorem secs_lt_of_short (secs : UInt32) : secs.toNat < 18446744073709551616 :=
  Nat.lt_trans secs.toNat_lt (by decide)

/-- A span of whole seconds that 32 bits hold. -/
def short (secs : UInt32) : Duration :=
  ⟨secs.toNat, 0, secs_lt_of_short secs, zero.nanos_lt⟩

/-- The span of some seconds and nanoseconds, of either any number; none from 2^64 seconds on. -/
def ofParts? (secs nanos : Nat) : Option Duration :=
  if h : secs + nanos / 1000000000 < 18446744073709551616 then
    some ⟨secs + nanos / 1000000000, nanos % 1000000000, h, Nat.mod_lt _ (by decide)⟩
  else none

/-- Whole seconds, when 64 bits hold them. -/
def ofSecs? (secs : Nat) : Option Duration :=
  ofParts? secs 0

def ofMillis? (millis : Nat) : Option Duration :=
  ofParts? (millis / 1000) (millis % 1000 * 1000000)

/-- The length of the span in nanoseconds. -/
def inNanos (d : Duration) : Nat :=
  d.secs * 1000000000 + d.nanos

/-- The whole milliseconds of the span. -/
def inMillis (d : Duration) : Nat :=
  d.inNanos / 1000000

/-- The span without its part of a second. -/
def wholeSecs (d : Duration) : Duration :=
  ⟨d.secs, 0, d.secs_lt, by decide⟩

/-- The length of a span in seconds, rounded where it is put together. -/
def inSeconds (d : Duration) : Rat :=
  Binary64.round (Binary64.round (d.secs : Rat) + Binary64.round ((d.nanos : Rat) / 1000000000))

/-- One and a half times a span; none when 64 bits cannot hold its seconds. -/
def timesOneAndHalf? (d : Duration) : Option Duration :=
  ofParts? 0 (Binary64.roundEven (Binary64.round (3 / 2 * d.inSeconds) * 1000000000)).toNat

theorem ofParts?_self (d : Duration) : ofParts? d.secs d.nanos = some d := by
  have h0 : d.nanos / 1000000000 = 0 := Nat.div_eq_of_lt d.nanos_lt
  have h1 : d.nanos % 1000000000 = d.nanos := Nat.mod_eq_of_lt d.nanos_lt
  have h : d.secs + d.nanos / 1000000000 < 18446744073709551616 := by rw [h0]; exact d.secs_lt
  have hs : d.secs + d.nanos / 1000000000 = d.secs := by rw [h0, Nat.add_zero]
  rw [ofParts?, dif_pos h]
  exact congrArg some (ext_parts hs h1)

theorem inNanos_of_ofParts? {secs nanos : Nat} {d : Duration} (h : ofParts? secs nanos = some d) :
    d.inNanos = secs * 1000000000 + nanos := by
  unfold ofParts? at h
  split at h
  · cases h
    simp only [inNanos]
    omega
  · cases h

theorem ofParts?_isSome_iff {secs nanos : Nat} :
    (ofParts? secs nanos).isSome ↔ secs + nanos / 1000000000 < 18446744073709551616 := by
  unfold ofParts?
  split
  · next h => exact ⟨fun _ => h, fun _ => rfl⟩
  · next h => exact ⟨fun hs => Bool.noConfusion hs, fun hc => absurd hc h⟩

end Duration

end ContainerFleet
