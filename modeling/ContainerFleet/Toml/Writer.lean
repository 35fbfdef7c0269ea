import ContainerFleet.Toml.Lexeme

/-!
Writing a table as a TOML document: plain entries first, then each table under a header of its
own. A header is left out for a table that holds nothing but tables.
-/

namespace ContainerFleet.Toml

open ContainerFleet.Text

/-- A character between double quotes. -/
def escapeBasic (keepNewline : Bool) (c : Char) : List Char :=
  match c with
  | '\x08' => ['\\', 'b']
  | '\t' => ['\\', 't']
  | '\n' => if keepNewline then ['\n'] else ['\\', 'n']
  | '\x0c' => ['\\', 'f']
  | '\r' => ['\\', 'r']
  | '"' => ['\\', '"']
  | '\\' => ['\\', '\\']
  | c =>
    if c.toNat < 0x20 ∨ c.toNat = 0x7f then
      let digit (n : Nat) : Char := (Nat.digitChar (n % 16)).toUpper
      ['\\', 'u', '0', '0', digit (c.toNat / 16), digit c.toNat]
    else [c]

/-- A control character that is no tab and no line feed. -/
def needsEscape (c : Char) : Bool :=
  (c.toNat < 0x20 || c.toNat == 0x7f) && c != '\t' && c != '\n'

/-- Whether three apostrophes stand side by side. -/
def hasThreeApostrophes : List Char → Bool
  | '\'' :: '\'' :: '\'' :: _ => true
  | _ :: rest => hasThreeApostrophes rest
  | [] => false

/-- A text that quotes or backslashes make ugly between double quotes, and that needs no
escape, stands between apostrophes. -/
def prefersLiteral (s : List Char) : Bool :=
  s.any (fun c => c == '"' || c == '\\') && !s.any needsEscape && !hasThreeApostrophes s

/-- A text as a value: over several lines when it has line feeds. -/
def writeText (s : List Char) : List Char :=
  let long := s.contains '\n'
  if prefersLiteral s then
    if long then "'''\n".toList ++ s ++ "'''".toList
    else if s.contains '\'' then "'''".toList ++ s ++ "'''".toList
    else '\'' :: s ++ ['\'']
  else if long then "\"\"\"\n".toList ++ s.flatMap (escapeBasic true) ++ "\"\"\"".toList
  else '"' :: s.flatMap (escapeBasic false) ++ ['"']

/-- One part of a key, without quotes if that can be. -/
def writeKey (key : String) : List Char :=
  let s := key.toList
  if !s.isEmpty && s.all isBareChar then s
  else if s.any (fun c => c == '"' || c == '\\') && s.all (fun c => isCommentChar c && c != '\'')
  then '\'' :: s ++ ['\'']
  else '"' :: s.flatMap (escapeBasic false) ++ ['"']

def writePath (path : List String) : List Char :=
  List.intercalate ['.'] (path.map writeKey)

/-- What a document is written from: texts, integers and truth values, in tables. -/
inductive Item where
  | str (s : String)
  | int (n : Int)
  | bool (b : Bool)
  | table (entries : List (String × Item))

namespace Item

/-- The value an item stands for. -/
def plain? : Item → Option (List Char)
  | str s => some (writeText s.toList)
  | int n => some (if n < 0 then '-' :: Decimal.write n.natAbs else Decimal.write n.natAbs)
  | bool true => some "true".toList
  | bool false => some "false".toList
  | table _ => none

/-- The lines of the entries that are no tables. -/
def writePlain : List (String × Item) → List Char
  | [] => []
  | (key, item) :: entries =>
    match item.plain? with
    | some text => writeKey key ++ " = ".toList ++ text ++ '\n' :: writePlain entries
    | none => writePlain entries

def isTable : Item → Bool
  | table _ => true
  | _ => false

/-- Whether a table has a header: it has a plain entry, or none at all. -/
def hasHeader (entries : List (String × Item)) : Bool :=
  entries.isEmpty || entries.any fun entry => !entry.2.isTable

mutual

/-- The tables of a table, each with its own tables after it. -/
def writeTables (path : List String) : List (String × Item) → List Char
  | [] => []
  | (key, item) :: entries => writeTable (path ++ [key]) item ++ writeTables path entries

def writeTable (path : List String) : Item → List Char
  | table entries =>
    (if hasHeader entries then '\n' :: '[' :: writePath path ++ [']', '\n'] ++ writePlain entries
      else []) ++ writeTables path entries
  | _ => []

end

end Item

/-- A document with these entries. The blank line before a header is left out at the start. -/
def write (entries : List (String × Item)) : List Char :=
  let text := Item.writePlain entries ++ Item.writeTables [] entries
  match text with
  | '\n' :: rest => rest
  | text => text

end ContainerFleet.Toml
