import ContainerFleet.Json.Basic

/-!
Values of a TOML document.
-/

namespace ContainerFleet.Toml

inductive Value where
  | str (s : String)
  /-- An integer of 64 bits. -/
  | int (n : Int)
  /-- A number with a point or an exponent, as it was written. -/
  | float (written : String)
  | bool (b : Bool)
  /-- A date, a time or both, as written. -/
  | datetime (written : String)
  | arr (items : List Value)
  | table (entries : List (String × Value))
deriving BEq, Repr, Inhabited

namespace Value

/-- The one name of the record that a date or time is read as. -/
def datetimeField : String := "$__toml_private_datetime"

mutual

/-- The value as records are read from it; a date or time is a record with one field. -/
def toJson : Value → Json
  | str s => .str s
  | int n => .int n
  | float written => .real written
  | bool b => .bool b
  | datetime written => .obj [(datetimeField, .str written)]
  | arr items => .arr (itemsToJson items)
  | table entries => .obj (entriesToJson entries)

def itemsToJson : List Value → List Json
  | [] => []
  | v :: items => toJson v :: itemsToJson items

def entriesToJson : List (String × Value) → List (String × Json)
  | [] => []
  | (key, v) :: entries => (key, toJson v) :: entriesToJson entries

end

end Value

end ContainerFleet.Toml
