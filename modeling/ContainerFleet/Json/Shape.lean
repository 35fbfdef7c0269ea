import ContainerFleet.Json.Basic

/-!
Shapes of JSON values, and reading a value by a shape: what is not of the shape is an error, fields
that a record does not have are left out, and so are its fields that are null.
-/

namespace ContainerFleet

inductive Shape where
  | text
  | flag
  /-- An integer between two bounds, both included. -/
  | int (low high : Int)
  /-- One of some texts, alone or as an object that maps it to null. -/
  | word (words : List String)
  /-- An object without fields. -/
  | emptyObject
  | list (item : Shape)
  /-- An object whose fields all have one shape. -/
  | map (item : Shape)
  /-- Null, or a value. -/
  | nullable (value : Shape)
  /-- As the shape of a record's field: the field has to be there. -/
  | required (value : Shape)
  | record (fields : List (String × Shape))

namespace Shape

/-- An integer of 64 bits. -/
def int64 : Shape := .int (-9223372036854775808) 9223372036854775807

/-- A number of 64 bits that is not negative. -/
def word64 : Shape := .int 0 18446744073709551615

def int32 : Shape := .int (-2147483648) 2147483647

def word16 : Shape := .int 0 65535

def texts : Shape := .list .text

def textMap : Shape := .map .text

/-- Fields that are there more than once although the record knows them. -/
def hasRepeated (fields : List (String × Shape)) (given : List (String × Json)) : Bool :=
  fields.any fun field => 1 < (given.filter fun entry => entry.1 = field.1).length

mutual

/-- A value as a shape sees it; none when it is not of the shape. -/
def project? : Shape → Json → Option Json
  | .text, v =>
    match v with
    | .str s => some (.str s)
    | _ => none
  | .flag, v =>
    match v with
    | .bool b => some (.bool b)
    | _ => none
  | .int low high, v =>
    match v with
    | .int n => if low ≤ n ∧ n ≤ high then some (.int n) else none
    | _ => none
  | .word words, v =>
    match v with
    | .str s => if words.contains s then some (.str s) else none
    | .obj [(s, .null)] => if words.contains s then some (.str s) else none
    | _ => none
  | .emptyObject, v =>
    match v with
    | .obj [] => some (.obj [])
    | _ => none
  | .list item, v =>
    match v with
    | .arr items => (items.mapM (project? item)).map .arr
    | _ => none
  | .map item, v =>
    match v with
    | .obj entries =>
      (entries.mapM fun entry => (project? item entry.2).map (entry.1, ·)).map fun entries =>
        .obj (Map.ofEntries entries)
    | _ => none
  | .nullable value, v =>
    match v with
    | .null => some .null
    | v => project? value v
  | .required value, v => project? value v
  | .record fields, v =>
    match v with
    | .obj entries =>
      if hasRepeated fields entries then none else (projectFields? fields entries).map .obj
    | _ => none

/-- The fields of a record, in the record's order. -/
def projectFields? : List (String × Shape) → List (String × Json) →
    Option (List (String × Json))
  | [], _ => some []
  | (name, shape) :: fields, entries =>
    match projectFields? fields entries, (entries.find? fun entry => entry.1 = name).map Prod.snd with
    | none, _ => none
    | some rest, none =>
      match shape with
      | .required _ => none
      | _ => some rest
    | some rest, some .null =>
      match shape with
      | .required value => (project? value .null).map fun v => (name, v) :: rest
      | _ => some rest
    | some rest, some v => (project? shape v).map fun v => (name, v) :: rest

end

end Shape

end ContainerFleet
