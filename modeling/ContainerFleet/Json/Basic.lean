import ContainerFleet.Map

/-!
JSON values. A number is an integer when 64 bits hold it, signed or unsigned; any other number is
kept as it was written, because nothing here computes with it.
-/

namespace ContainerFleet

inductive Json where
  | null
  | bool (b : Bool)
  | int (n : Int)
  | real (written : String)
  | str (s : String)
  | arr (items : List Json)
  | obj (fields : List (String × Json))
deriving BEq, Repr, Inhabited

namespace Json

/-- The field of an object with this name; of several the last. -/
def field? (name : String) : Json → Option Json
  | obj fields => (fields.reverse.find? fun entry => entry.1 = name).map Prod.snd
  | _ => none

/-- The field of an object with this name, unless it is null. -/
def given? (name : String) (v : Json) : Option Json :=
  match v.field? name with
  | some null => none
  | found => found

def str? : Json → Option String
  | str s => some s
  | _ => none

def bool? : Json → Option Bool
  | bool b => some b
  | _ => none

def int? : Json → Option Int
  | int n => some n
  | _ => none

def nat? : Json → Option Nat
  | int n => n.toNat?
  | _ => none

def arr? : Json → Option (List Json)
  | arr items => some items
  | _ => none

def obj? : Json → Option (List (String × Json))
  | obj fields => some fields
  | _ => none

def ofNat (n : Nat) : Json :=
  int n

def ofStrings (items : List String) : Json :=
  arr (items.map str)

/-- A value or null. -/
def ofOption {α : Type} (encode : α → Json) : Option α → Json
  | none => null
  | some a => encode a

mutual

/-- Objects with one field a name: of several with one name the last stays. -/
def dedup : Json → Json
  | obj fields => obj (Map.ofEntries (dedupFields fields))
  | arr items => arr (dedupItems items)
  | v => v

def dedupItems : List Json → List Json
  | [] => []
  | v :: items => dedup v :: dedupItems items

def dedupFields : List (String × Json) → List (String × Json)
  | [] => []
  | (name, v) :: fields => (name, dedup v) :: dedupFields fields

end

end Json

end ContainerFleet
