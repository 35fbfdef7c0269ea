import ContainerFleet.Json.Basic
import ContainerFleet.Text.Decimal

/-!
JSON values as text, on one line or indented by two blanks a level.
-/

namespace ContainerFleet.Json

open ContainerFleet.Text

def hexDigit (n : Nat) : Char :=
  Nat.digitChar (n % 16)

/-- One character of a quoted text. Quotes, backslashes and the characters below the blank are
escaped, the common ones by a letter. -/
def escape (c : Char) : List Char :=
  match c with
  | '"' => ['\\', '"']
  | '\\' => ['\\', '\\']
  | '\x08' => ['\\', 'b']
  | '\x0c' => ['\\', 'f']
  | '\n' => ['\\', 'n']
  | '\r' => ['\\', 'r']
  | '\t' => ['\\', 't']
  | c =>
    if c.toNat < 0x20 then ['\\', 'u', '0', '0', hexDigit (c.toNat / 16), hexDigit c.toNat]
    else [c]

def quote (s : String) : List Char :=
  '"' :: s.toList.flatMap escape ++ ['"']

def writeInt (n : Int) : List Char :=
  if n < 0 then '-' :: Decimal.write n.natAbs else Decimal.write n.natAbs

mutual

/-- The value on one line. -/
def compress : Json → List Char
  | null => "null".toList
  | bool true => "true".toList
  | bool false => "false".toList
  | int n => writeInt n
  | real written => written.toList
  | str s => quote s
  | arr items => '[' :: List.intercalate [','] (compressItems items) ++ [']']
  | obj fields => '\x7b' :: List.intercalate [','] (compressFields fields) ++ ['\x7d']

def compressItems : List Json → List (List Char)
  | [] => []
  | v :: items => compress v :: compressItems items

def compressFields : List (String × Json) → List (List Char)
  | [] => []
  | (name, v) :: fields => (quote name ++ ':' :: compress v) :: compressFields fields

end

/-- A line break and the indentation of a level. -/
def breakLine (level : Nat) : List Char :=
  '\n' :: List.replicate (2 * level) ' '

/-- The members of an array or object, one a line, between its brackets. -/
def bracket (level : Nat) (opening closing : Char) (members : List (List Char)) : List Char :=
  match members with
  | [] => [opening, closing]
  | members =>
    opening :: List.intercalate [','] (members.map (breakLine (level + 1) ++ ·))
      ++ breakLine level ++ [closing]

mutual

/-- The value over several lines; `level` is the depth at which it stands. -/
def indent (level : Nat) : Json → List Char
  | arr items => bracket level '[' ']' (indentItems (level + 1) items)
  | obj fields => bracket level '\x7b' '\x7d' (indentFields (level + 1) fields)
  | v => compress v

def indentItems (level : Nat) : List Json → List (List Char)
  | [] => []
  | v :: items => indent level v :: indentItems level items

def indentFields (level : Nat) : List (String × Json) → List (List Char)
  | [] => []
  | (name, v) :: fields =>
    (quote name ++ ':' :: ' ' :: indent level v) :: indentFields level fields

end

end ContainerFleet.Json
