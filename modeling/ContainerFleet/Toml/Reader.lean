import ContainerFleet.Toml.Lexeme

/-!
Reading a TOML document: its statements, and then the table that these make.
-/

namespace ContainerFleet.Toml

def word? (word : String) (v : Value) (s : List Char) : Option (Value × List Char) :=
  if word.toList.isPrefixOf s then some (v, s.drop word.length) else none

/-- The items of an array after the opening bracket or a comma. -/
def items? (value : Read Value) (s : List Char) : Option (List Value × List Char) :=
  match skipBlankLines s with
  | ']' :: rest => some ([], rest)
  | start =>
    match value start with
    | none => none
    | some (v, rest) =>
      match skipBlankLines rest with
      | ']' :: rest => some ([v], rest)
      | ',' :: rest =>
        if rest.length < s.length then
          match items? value rest with
          | none => none
          | some (items, rest) => some (v :: items, rest)
        else none
      | _ => none
termination_by s.length

/-- A key, an equals sign and a value. -/
def pair? (value : Read Value) (s : List Char) : Option ((List String × Value) × List Char) := do
  let (key, rest) ← key? s
  let rest ← char? '=' rest
  let (v, rest) ← value (skipSpace rest)
  return ((key, v), rest)

/-- The pairs of an inline table after the opening brace or a comma. -/
def pairs? (value : Read Value) (s : List Char) :
    Option (List (List String × Value) × List Char) :=
  match pair? value s with
  | none => none
  | some (pair, rest) =>
    match skipSpace rest with
    | '\x7d' :: rest => some ([pair], rest)
    | ',' :: rest =>
      if rest.length < s.length then
        match pairs? value rest with
        | none => none
        | some (pairs, rest) => some (pair :: pairs, rest)
      else none
    | _ => none
termination_by s.length

/-- The table of an inline table's pairs. -/
def ofPairs? (pairs : List (List String × Value)) : Option Value :=
  (pairs.foldlM (fun table pair => Section.assign pair.1 pair.2 table) Section.empty).map
    Section.toValue

/-- A value at the front of the text; `depth` bounds how deep arrays and inline tables nest. -/
def value? (depth : Nat) (s : List Char) : Option (Value × List Char) :=
  match s with
  | [] => none
  | c :: rest =>
    if c = '"' ∨ c = '\'' then (text? s).map fun (text, rest) => (.str (String.ofList text), rest)
    else if c = '[' then
      match depth with
      | 0 => none
      | depth + 1 => (items? (value? depth) rest).map fun (items, rest) => (.arr items, rest)
    else if c = '\x7b' then
      match depth with
      | 0 => none
      | depth + 1 =>
        match skipSpace rest with
        | '\x7d' :: rest => some (.table [], rest)
        | rest => do
          let (pairs, rest) ← pairs? (value? depth) rest
          let table ← ofPairs? pairs
          return (table, rest)
    else if c = 't' then word? "true" (.bool true) s
    else if c = 'f' then word? "false" (.bool false) s
    else ((datetime? s).orElse fun _ => float? s).orElse fun _ => integer? s

/-- The end of a statement: blanks, a comment and the end of the line. -/
def statementEnd? (s : List Char) : Option (List Char) :=
  lineEnd? (skipComment (skipSpace s))

/-- A statement at the front of a line. -/
def statement? (s : List Char) : Option (Statement × List Char) :=
  match s with
  | '[' :: '[' :: rest => do
    let (path, rest) ← key? rest
    let rest ← char? ']' rest
    let rest ← char? ']' rest
    let rest ← statementEnd? rest
    return (.itemHeader path, rest)
  | '[' :: rest => do
    let (path, rest) ← key? rest
    let rest ← char? ']' rest
    let rest ← statementEnd? rest
    return (.header path, rest)
  | s => do
    let ((path, v), rest) ← pair? (value? (depthLimit - 1)) s
    let rest ← statementEnd? rest
    return (.assign path v, rest)

/-- All statements of a document. -/
def statements? (s : List Char) : Option (List Statement) :=
  match skipSpace s with
  | [] => some []
  | c :: tail =>
    if c = '#' ∨ c = '\n' ∨ c = '\r' then
      match lineEnd? (skipComment (c :: tail)) with
      | none => none
      | some rest => if rest.length < s.length then statements? rest else none
    else
      match statement? (c :: tail) with
      | none => none
      | some (statement, rest) =>
        if rest.length < s.length then
          match statements? rest with
          | none => none
          | some statements => some (statement :: statements)
        else none
termination_by s.length

/-- A text without the byte order mark that it may start with. -/
def skipMark (s : List Char) : List Char :=
  match s with
  | '\ufeff' :: rest => rest
  | s => s

/-- The table that a document stands for. -/
def parse? (s : List Char) : Option Value :=
  (statements? (skipMark s)).bind ofStatements?

end ContainerFleet.Toml
