import ContainerFleet.Json.Basic
import ContainerFleet.Duration.Text

/-!
Reading records from JSON values. A record is an object, or a list of its fields in their order.
Unknown names are passed over; a known name that stands twice is an error.
-/

namespace ContainerFleet.Json

/-- How strict a format is about a record that is written as a list. -/
structure Strictness where
  /-- Whether members beyond the last field are passed over. -/
  ignoreSurplus : Bool

def strict : Strictness := ⟨false⟩

def lenient : Strictness := ⟨true⟩

/-- The fields of a record that are there. -/
structure Record where
  fields : List (String × Json)
  /-- Whether the record was written as a list. -/
  positional : Bool

/-- The fields of a record with these names. -/
def record? (how : Strictness) (names : List String) : Json → Option Record
  | obj fields =>
    let known := fields.filter fun entry => names.contains entry.1
    if (known.map Prod.fst).Nodup then some ⟨known, false⟩ else none
  | arr items =>
    if items.length ≤ names.length ∨ how.ignoreSurplus then some ⟨names.zip items, true⟩ else none
  | _ => none

namespace Record

def get? (r : Record) (name : String) : Option Json :=
  (r.fields.find? fun entry => entry.1 = name).map Prod.snd

/-- A field that has to be there. -/
def required? {α : Type} (r : Record) (name : String) (read : Json → Option α) : Option α :=
  r.get? name >>= read

/-- A field that has a value of its own when it is not there. -/
def defaulted? {α : Type} (r : Record) (name : String) (default : α) (read : Json → Option α) :
    Option α :=
  match r.get? name with
  | none => some default
  | some v => read v

end Record

/-- Null, or a value. -/
def nullable? {α : Type} (read : Json → Option α) : Json → Option (Option α)
  | null => some none
  | v => (read v).map some

namespace Record

/-- A field that may be null or, in an object, missing. -/
def optional? {α : Type} (r : Record) (name : String) (read : Json → Option α) :
    Option (Option α) :=
  match r.get? name with
  | none => if r.positional then none else some none
  | some v => nullable? read v

end Record

/-- A number of 16 bits. -/
def port? (v : Json) : Option UInt16 :=
  match v.nat? with
  | some n => if n < 65536 then some (UInt16.ofNat n) else none
  | none => none

/-- A span of time: whole seconds, or a text. -/
def duration? : Json → Option Duration
  | int n => n.toNat?.bind Duration.ofSecs?
  | str s => Duration.ofText? s
  | _ => none

/-- A map from names to values. -/
def map? {α : Type} (read : Json → Option α) : Json → Option (Map String α)
  | obj fields =>
    (fields.mapM fun entry => (read entry.2).map (entry.1, ·)).map Map.ofEntries
  | _ => none

/-- One of some words, alone or as an object that maps it to null. -/
def word? {α : Type} (words : List (String × α)) : Json → Option α
  | str s => (words.find? fun w => w.1 = s).map Prod.snd
  | obj [(s, null)] => (words.find? fun w => w.1 = s).map Prod.snd
  | _ => none

end ContainerFleet.Json
