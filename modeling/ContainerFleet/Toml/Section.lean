import ContainerFleet.Toml.Value

/-!
How the statements of a document build its tables. A table may be opened by a header once; dotted
keys extend only tables that dotted keys made; a key is given a value once.
-/

namespace ContainerFleet.Toml

/-- What a key of an unfinished table stands for. -/
inductive Node where
  | value (v : Value)
  /-- A table. It is implicit until a header opens it, and dotted when dotted keys made it. -/
  | table (implicit dotted : Bool) (entries : List (String × Node))
  /-- An array of tables; the last one is still open. -/
  | tables (items : List (List (String × Node)))

namespace Node

mutual

def toValue : Node → Value
  | value v => v
  | table _ _ entries => .table (entriesToValue entries)
  | tables items => .arr (tablesToValue items)

def entriesToValue : List (String × Node) → List (String × Value)
  | [] => []
  | (key, node) :: entries => (key, toValue node) :: entriesToValue entries

def tablesToValue : List (List (String × Node)) → List Value
  | [] => []
  | entries :: items => .table (entriesToValue entries) :: tablesToValue items

end

end Node

/-- An unfinished table. -/
structure Section where
  implicit : Bool
  dotted : Bool
  entries : List (String × Node)

namespace Section

/-- The table that a document or an inline table starts as. -/
def empty : Section := ⟨false, false, []⟩

def toNode (s : Section) : Node :=
  .table s.implicit s.dotted s.entries

def get? (s : Section) (key : String) : Option Node :=
  Map.get? s.entries key

/-- Replaces what a key stands for, in its place, or adds the key at the end. -/
def put (s : Section) (key : String) (node : Node) : Section :=
  if (s.get? key).isSome then
    { s with entries := s.entries.map fun entry => if entry.1 = key then (key, node) else entry }
  else { s with entries := s.entries ++ [(key, node)] }

/-- Changes the table at the end of a path, making the tables on the way that are missing. -/
def update (dotted : Bool) (change : Section → Option Section) :
    List String → Section → Option Section
  | [], s => change s
  | key :: path, s =>
    match s.get? key with
    | none => do
      let child ← update dotted change path ⟨true, dotted, []⟩
      return s.put key child.toNode
    | some (.table implicit isDotted entries) =>
      if dotted && !implicit then none
      else do
        let child ← update dotted change path ⟨implicit, isDotted, entries⟩
        return s.put key child.toNode
    | some (.tables items) =>
      match items.getLast? with
      | none => none
      | some entries => do
        let child ← update dotted change path ⟨false, false, entries⟩
        return s.put key (.tables (items.dropLast ++ [child.entries]))
    | some (.value _) => none

/-- Gives a key of this very table its value. -/
def define (key : String) (v : Value) (s : Section) : Option Section :=
  if (s.get? key).isSome then none else some (s.put key (.value v))

/-- Gives a dotted key its value. The table that holds the last part must have been made by
dotted keys, unless there is one part only. -/
def assign (path : List String) (v : Value) (s : Section) : Option Section :=
  match path.getLast? with
  | none => none
  | some key =>
    update true
      (fun table => if table.dotted == path.dropLast.isEmpty then none else table.define key v)
      path.dropLast s

/-- Opens the table that a header names. -/
def openTable (path : List String) (s : Section) : Option Section :=
  match path.getLast? with
  | none => none
  | some key =>
    update false
      (fun table =>
        match table.get? key with
        | none => some (table.put key (.table false false []))
        | some (.table true false entries) => some (table.put key (.table false false entries))
        | some _ => none)
      path.dropLast s

/-- Adds a table to the array of tables that a header names. -/
def openItem (path : List String) (s : Section) : Option Section :=
  match path.getLast? with
  | none => none
  | some key =>
    update false
      (fun table =>
        match table.get? key with
        | none => some (table.put key (.tables [[]]))
        | some (.tables items) => some (table.put key (.tables (items ++ [[]])))
        | some _ => none)
      path.dropLast s

/-- The finished table. -/
def toValue (s : Section) : Value :=
  s.toNode.toValue

end Section

/-- One statement of a document. -/
inductive Statement where
  | header (path : List String)
  | itemHeader (path : List String)
  | assign (path : List String) (v : Value)

/-- A document so far, and the path of the header under which statements stand. -/
structure Progress where
  root : Section
  under : List String

namespace Progress

def start : Progress := ⟨Section.empty, []⟩

def step (p : Progress) : Statement → Option Progress
  | .header path => (p.root.openTable path).map (⟨·, path⟩)
  | .itemHeader path => (p.root.openItem path).map (⟨·, path⟩)
  | .assign path v =>
    (p.root.update false (fun table => table.assign path v) p.under).map (⟨·, p.under⟩)

end Progress

/-- The table that a document's statements make. -/
def ofStatements? (statements : List Statement) : Option Value :=
  (statements.foldlM Progress.step Progress.start).map fun p => p.root.toValue

end ContainerFleet.Toml
