import ContainerFleet.Json.Basic
import ContainerFleet.Text.Decimal

/-!
Reading JSON text. Arrays and objects nest less than 128 deep, and control characters in a quoted
text are errors. The fields of an object are kept as they stand, repeated names included.
-/

namespace ContainerFleet.Json

open ContainerFleet.Text

namespace Reader

/-- What a reader of a value at the front of a text answers: the value and the rest. -/
abbrev Read (α : Type) : Type :=
  List Char → Option (α × List Char)

def isSpace (c : Char) : Bool :=
  c == ' ' || c == '\n' || c == '\t' || c == '\r'

def skipSpace (s : List Char) : List Char :=
  s.dropWhile isSpace

def hexValue? (c : Char) : Option Nat :=
  if '0' ≤ c ∧ c ≤ '9' then some (c.toNat - '0'.toNat)
  else if 'a' ≤ c ∧ c ≤ 'f' then some (c.toNat - 'a'.toNat + 10)
  else if 'A' ≤ c ∧ c ≤ 'F' then some (c.toNat - 'A'.toNat + 10)
  else none

/-- Four hexadecimal digits. -/
def unit? : Read Nat
  | a :: b :: c :: d :: rest => do
    let a ← hexValue? a
    let b ← hexValue? b
    let c ← hexValue? c
    let d ← hexValue? d
    return (((a * 16 + b) * 16 + c) * 16 + d, rest)
  | _ => none

/-- The character of an escape of four digits, or of two such escapes that form a surrogate
pair. -/
def unicodeEscape? (s : List Char) : Option (Char × List Char) := do
  let (high, rest) ← unit? s
  if 0xd800 ≤ high ∧ high < 0xdc00 then
    match rest with
    | '\\' :: 'u' :: rest =>
      let (low, rest) ← unit? rest
      if 0xdc00 ≤ low ∧ low < 0xe000 then
        return (Char.ofNat (0x10000 + (high - 0xd800) * 0x400 + (low - 0xdc00)), rest)
      else none
    | _ => none
  else if 0xdc00 ≤ high ∧ high < 0xe000 then none
  else return (Char.ofNat high, rest)

/-- The character that follows a backslash. -/
def escape? : Read Char
  | '"' :: rest => some ('"', rest)
  | '\\' :: rest => some ('\\', rest)
  | '/' :: rest => some ('/', rest)
  | 'b' :: rest => some ('\x08', rest)
  | 'f' :: rest => some ('\x0c', rest)
  | 'n' :: rest => some ('\n', rest)
  | 'r' :: rest => some ('\r', rest)
  | 't' :: rest => some ('\t', rest)
  | 'u' :: rest => unicodeEscape? rest
  | _ => none

/-- The rest of a quoted text after its opening quote. -/
def quoted? (s : List Char) : Option (List Char × List Char) :=
  match s with
  | [] => none
  | '"' :: rest => some ([], rest)
  | '\\' :: rest =>
    match escape? rest with
    | none => none
    | some (c, tail) =>
      if tail.length ≤ rest.length then
        match quoted? tail with
        | none => none
        | some (text, rest) => some (c :: text, rest)
      else none
  | c :: rest =>
    if c.toNat < 0x20 then none
    else
      match quoted? rest with
      | none => none
      | some (text, rest) => some (c :: text, rest)
termination_by s.length

/-- The digits at the front, one at least. -/
def digits? (s : List Char) : Option (List Char × List Char) :=
  match s.takeWhile Char.isDigit with
  | [] => none
  | digits => some (digits, s.dropWhile Char.isDigit)

/-- The integer part of a number: no zero stands in front of another digit. -/
def whole? (s : List Char) : Option (List Char × List Char) :=
  match s with
  | '0' :: rest =>
    match rest with
    | c :: _ => if c.isDigit then none else some (['0'], rest)
    | [] => some (['0'], rest)
  | s => digits? s

def fraction? (s : List Char) : Option (List Char × List Char) :=
  match s with
  | '.' :: rest => do
    let (digits, rest) ← digits? rest
    return ('.' :: digits, rest)
  | s => some ([], s)

def exponent? (s : List Char) : Option (List Char × List Char) :=
  let signed (mark : Char) (s : List Char) : Option (List Char × List Char) :=
    match s with
    | '+' :: rest => do
      let (digits, rest) ← digits? rest
      return (mark :: '+' :: digits, rest)
    | '-' :: rest => do
      let (digits, rest) ← digits? rest
      return (mark :: '-' :: digits, rest)
    | rest => do
      let (digits, rest) ← digits? rest
      return (mark :: digits, rest)
  match s with
  | 'e' :: rest => signed 'e' rest
  | 'E' :: rest => signed 'E' rest
  | s => some ([], s)

/-- An integer when it has neither point nor exponent and 64 bits hold it. -/
def ofLexeme (negative : Bool) (whole tail : List Char) : Json :=
  let written := (if negative then ['-'] else []) ++ whole ++ tail
  match tail, Decimal.read? whole with
  | [], some n =>
    if negative then
      if n = 0 ∨ 9223372036854775808 < n then real (String.ofList written) else int (-n)
    else if n < 18446744073709551616 then int n
    else real (String.ofList written)
  | _, _ => real (String.ofList written)

def number? (s : List Char) : Option (Json × List Char) := do
  let (negative, s) :=
    match s with
    | '-' :: rest => (true, rest)
    | s => (false, s)
  let (whole, s) ← whole? s
  let (fraction, s) ← fraction? s
  let (exponent, s) ← exponent? s
  return (ofLexeme negative whole (fraction ++ exponent), s)

/-- The members of an array after the opening bracket or a comma. -/
def items? (item : Read Json) (s : List Char) : Option (List Json × List Char) :=
  match item (skipSpace s) with
  | none => none
  | some (v, rest) =>
    match skipSpace rest with
    | ']' :: rest => some ([v], rest)
    | ',' :: rest =>
      if rest.length < s.length then
        match items? item rest with
        | none => none
        | some (items, rest) => some (v :: items, rest)
      else none
    | _ => none
termination_by s.length

/-- A name, a colon and a value. -/
def field? (item : Read Json) (s : List Char) : Option ((String × Json) × List Char) :=
  match skipSpace s with
  | '"' :: rest => do
    let (name, rest) ← quoted? rest
    match skipSpace rest with
    | ':' :: rest =>
      let (v, rest) ← item (skipSpace rest)
      return ((String.ofList name, v), rest)
    | _ => none
  | _ => none

/-- The fields of an object after the opening brace or a comma. -/
def fields? (item : Read Json) (s : List Char) : Option (List (String × Json) × List Char) :=
  match field? item s with
  | none => none
  | some (entry, rest) =>
    match skipSpace rest with
    | '\x7d' :: rest => some ([entry], rest)
    | ',' :: rest =>
      if rest.length < s.length then
        match fields? item rest with
        | none => none
        | some (fields, rest) => some (entry :: fields, rest)
      else none
    | _ => none
termination_by s.length

def word? (word : String) (v : Json) (s : List Char) : Option (Json × List Char) :=
  if word.toList.isPrefixOf s then some (v, s.drop word.length) else none

/-- A value at the front of the text; `depth` bounds how deep it nests. -/
def value? (depth : Nat) (s : List Char) : Option (Json × List Char) :=
  match s with
  | 'n' :: _ => word? "null" null s
  | 't' :: _ => word? "true" (bool true) s
  | 'f' :: _ => word? "false" (bool false) s
  | '"' :: rest => (quoted? rest).map fun (text, rest) => (str (String.ofList text), rest)
  | '[' :: rest =>
    match depth with
    | 0 => none
    | depth + 1 =>
      match skipSpace rest with
      | ']' :: rest => some (arr [], rest)
      | rest => (items? (value? depth) rest).map fun (items, rest) => (arr items, rest)
  | '\x7b' :: rest =>
    match depth with
    | 0 => none
    | depth + 1 =>
      match skipSpace rest with
      | '\x7d' :: rest => some (obj [], rest)
      | rest => (fields? (value? depth) rest).map fun (fields, rest) => (obj fields, rest)
  | s => number? s

/-- How deep arrays and objects may nest. -/
def maxDepth : Nat := 127

end Reader

/-- The value that the whole text stands for. -/
def parse? (s : List Char) : Option Json := do
  let (v, rest) ← Reader.value? Reader.maxDepth (Reader.skipSpace s)
  if (Reader.skipSpace rest).isEmpty then return v else none

end ContainerFleet.Json
