import ContainerFleet.Timestamp.Basic
import ContainerFleet.Toml.Section
import ContainerFleet.Json.Reader
import ContainerFleet.Text.Decimal

/-!
The words of a TOML document: blanks, comments, line ends, texts, numbers, dates and keys.
-/

namespace ContainerFleet.Toml

open ContainerFleet.Text

/-- What a reader at the front of a text answers: what it read, and the rest. -/
abbrev Read (α : Type) : Type :=
  List Char → Option (α × List Char)

def isSpace (c : Char) : Bool :=
  c == ' ' || c == '\t'

def skipSpace (s : List Char) : List Char :=
  s.dropWhile isSpace

/-- The characters of a comment: all but the control characters, a tab excepted. -/
def isCommentChar (c : Char) : Bool :=
  c == '\t' || (0x20 ≤ c.toNat && c.toNat != 0x7f)

def skipComment (s : List Char) : List Char :=
  match s with
  | '#' :: rest => rest.dropWhile isCommentChar
  | s => s

/-- The end of a line: a line feed, with a carriage return before it or not. -/
def newline? : List Char → Option (List Char)
  | '\n' :: rest => some rest
  | '\r' :: '\n' :: rest => some rest
  | _ => none

/-- The end of a line, or of the text. -/
def lineEnd? (s : List Char) : Option (List Char) :=
  match s with
  | [] => some []
  | s => newline? s

/-- Blanks, comments and line ends. -/
def skipBlankLines (s : List Char) : List Char :=
  match skipComment (skipSpace s) with
  | [] => []
  | c :: rest =>
    match newline? (c :: rest) with
    | none => c :: rest
    | some after => if after.length < s.length then skipBlankLines after else after
termination_by s.length

/-! ### Texts -/

/-- The scalar value of some hexadecimal digits. -/
def scalar? (digits : List Char) : Option Char := do
  let n ← digits.foldlM (fun n c => (Json.Reader.hexValue? c).map (n * 16 + ·)) 0
  if n.isValidChar then return Char.ofNat n else none

/-- The character that follows a backslash. -/
def escape? : Read Char
  | 'b' :: rest => some ('\x08', rest)
  | 't' :: rest => some ('\t', rest)
  | 'n' :: rest => some ('\n', rest)
  | 'f' :: rest => some ('\x0c', rest)
  | 'r' :: rest => some ('\r', rest)
  | '"' :: rest => some ('"', rest)
  | '\\' :: rest => some ('\\', rest)
  | 'u' :: a :: b :: c :: d :: rest => (scalar? [a, b, c, d]).map (·, rest)
  | 'U' :: a :: b :: c :: d :: e :: f :: g :: h :: rest =>
    (scalar? [a, b, c, d, e, f, g, h]).map (·, rest)
  | _ => none

/-- The rest of a text in quotes on one line, after the opening quote. -/
def basicText? (s : List Char) : Option (List Char × List Char) :=
  match s with
  | [] => none
  | '"' :: rest => some ([], rest)
  | '\\' :: rest =>
    match escape? rest with
    | none => none
    | some (c, tail) =>
      if tail.length ≤ rest.length then
        match basicText? tail with
        | none => none
        | some (text, rest) => some (c :: text, rest)
      else none
  | c :: rest =>
    if isCommentChar c then
      match basicText? rest with
      | none => none
      | some (text, rest) => some (c :: text, rest)
    else none
termination_by s.length

/-- The rest of a text in apostrophes on one line, after the opening one. -/
def literalText? : List Char → Option (List Char × List Char)
  | [] => none
  | '\'' :: rest => some ([], rest)
  | c :: rest =>
    if isCommentChar c then (literalText? rest).map fun (text, rest) => (c :: text, rest) else none

/-- How many quotes stand at the front. -/
def countQuotes (quote : Char) (s : List Char) : Nat :=
  (s.takeWhile (· == quote)).length

/-- Blanks and line ends, at least one of these, after the backslash at the end of a line. -/
def skipLineBreak? (s : List Char) : Option (List Char) := do
  let rest ← newline? (skipSpace s)
  return rest.dropWhile fun c => isSpace c || c == '\n' || c == '\r'

/-- The rest of a text in three quotes; two quotes more may stand before the closing ones. -/
def longText? (quote : Char) (escapes : Bool) (s : List Char) : Option (List Char × List Char) :=
  match s with
  | [] => none
  | c :: rest =>
    let more (skipped : List Char) (tail : List Char) : Option (List Char × List Char) :=
      if tail.length ≤ rest.length then
        match longText? quote escapes tail with
        | none => none
        | some (text, rest) => some (skipped ++ text, rest)
      else none
    if c = quote then
      let quotes := countQuotes quote s
      if 3 ≤ quotes then
        if quotes ≤ 5 then some (List.replicate (quotes - 3) quote, s.drop quotes) else none
      else more [c] rest
    else if escapes && c = '\\' then
      match skipLineBreak? rest with
      | some tail => more [] tail
      | none =>
        match escape? rest with
        | none => none
        | some (d, tail) => more [d] tail
    else
      match newline? s with
      | some tail => more ['\n'] tail
      | none => if isCommentChar c then more [c] rest else none
termination_by s.length

/-- The text without a line end at its front. -/
def skipNewline (s : List Char) : List Char :=
  (newline? s).getD s

/-- A text in any of the four kinds of quotes. -/
def text? : Read (List Char)
  | '"' :: '"' :: '"' :: rest => longText? '"' true (skipNewline rest)
  | '\'' :: '\'' :: '\'' :: rest => longText? '\'' false (skipNewline rest)
  | '"' :: rest => basicText? rest
  | '\'' :: rest => literalText? rest
  | _ => none

/-! ### Keys -/

def isBareChar (c : Char) : Bool :=
  c.isAlphanum || c == '-' || c == '_'

/-- One part of a key. -/
def keyPart? (s : List Char) : Option (List Char × List Char) :=
  match s with
  | '"' :: rest => basicText? rest
  | '\'' :: rest => literalText? rest
  | s =>
    match s.takeWhile isBareChar with
    | [] => none
    | part => some (part, s.dropWhile isBareChar)

/-- The parts of a dotted key, with blanks around them. -/
def keyParts? (s : List Char) : Option (List String × List Char) :=
  match keyPart? (skipSpace s) with
  | none => none
  | some (part, rest) =>
    match skipSpace rest with
    | '.' :: rest =>
      if rest.length < s.length then
        match keyParts? rest with
        | none => none
        | some (parts, rest) => some (String.ofList part :: parts, rest)
      else none
    | rest => some ([String.ofList part], rest)
termination_by s.length

/-- How deep keys, arrays and inline tables may nest. -/
def depthLimit : Nat := 80

/-- A dotted key of fewer parts than the limit. -/
def key? (s : List Char) : Option (List String × List Char) := do
  let (parts, rest) ← keyParts? s
  if parts.length < depthLimit then return (parts, rest) else none

/-! ### Numbers -/

/-- Digits at the front, an underscore allowed between any two. -/
def digits? (isDigit : Char → Bool) (s : List Char) : Option (List Char × List Char) :=
  match s with
  | [] => none
  | c :: rest =>
    if isDigit c then
      let tail := match rest with
        | '_' :: rest => digits? isDigit rest
        | rest => if (rest.head?.any isDigit) then digits? isDigit rest else some ([], rest)
      tail.map fun (digits, rest) => (c :: digits, rest)
    else none

def isHexDigit (c : Char) : Bool :=
  (Json.Reader.hexValue? c).isSome

def isOctalDigit (c : Char) : Bool :=
  '0' ≤ c ∧ c ≤ '7'

def isBinaryDigit (c : Char) : Bool :=
  c == '0' || c == '1'

/-- The value of digits in a base. -/
def valueIn (base : Nat) (digits : List Char) : Nat :=
  digits.foldl (fun n c => n * base + (Json.Reader.hexValue? c).getD 0) 0

/-- An integer when 64 bits hold it. -/
def bounded? (n : Int) : Option Value :=
  if -9223372036854775808 ≤ n ∧ n < 9223372036854775808 then some (.int n) else none

/-- A sign and a decimal integer without leading zeros. -/
def decimal? (s : List Char) : Option (List Char × List Char × List Char) :=
  let (sign, s) : List Char × List Char :=
    match s with
    | '+' :: rest => (['+'], rest)
    | '-' :: rest => (['-'], rest)
    | s => ([], s)
  match s with
  | '0' :: rest => some (sign, ['0'], rest)
  | s => (digits? Char.isDigit s).map fun (digits, rest) => (sign, digits, rest)

def integer? (s : List Char) : Option (Value × List Char) :=
  let radix (base : Nat) (isDigit : Char → Bool) (rest : List Char) := do
    let (digits, rest) ← digits? isDigit rest
    let v ← bounded? (valueIn base digits)
    return (v, rest)
  match s with
  | '0' :: 'x' :: rest => radix 16 isHexDigit rest
  | '0' :: 'o' :: rest => radix 8 isOctalDigit rest
  | '0' :: 'b' :: rest => radix 2 isBinaryDigit rest
  | s => do
    let (sign, digits, rest) ← decimal? s
    let n := valueIn 10 digits
    let v ← bounded? (if sign = ['-'] then -(n : Int) else n)
    return (v, rest)

/-- Whether `digits · 10^exponent` rounds beyond the largest binary number of 64 bits. -/
def isTooLarge (digits : Nat) (exponent : Int) : Bool :=
  let bound := (Nat.pow 2 54 - 1) * Nat.pow 2 970
  if digits = 0 then false
  else if 400 < exponent then true
  else if 0 ≤ exponent then decide (bound ≤ digits * Nat.pow 10 exponent.toNat)
  else if digits.log2 < 1000 + 3 * exponent.natAbs then false
  else decide (bound * Nat.pow 10 exponent.natAbs ≤ digits)

/-- A number with a point, an exponent or both, or one of the words for no number. -/
def float? (s : List Char) : Option (Value × List Char) :=
  let word (sign rest : List Char) : Option (Value × List Char) :=
    match rest with
    | 'i' :: 'n' :: 'f' :: rest => some (.float (String.ofList (sign ++ "inf".toList)), rest)
    | 'n' :: 'a' :: 'n' :: rest => some (.float (String.ofList (sign ++ "nan".toList)), rest)
    | _ => none
  let number : Option (Value × List Char) := do
    let (sign, whole, rest) ← decimal? s
    let (fraction, rest) ← match rest with
      | '.' :: rest => digits? Char.isDigit rest
      | rest => some ([], rest)
    let (exponent, rest) ← match rest with
      | 'e' :: rest | 'E' :: rest => do
        let (sign, rest) : List Char × List Char := match rest with
          | '+' :: rest => ([], rest)
          | '-' :: rest => (['-'], rest)
          | rest => ([], rest)
        let (digits, rest) ← digits? Char.isDigit rest
        pure (some (sign, digits), rest)
      | rest => some (none, rest)
    if fraction.isEmpty && exponent.isNone then none
    else
      let power : Int := match exponent with
        | none => 0
        | some (sign, digits) =>
          if sign = ['-'] then -(valueIn 10 digits : Int) else valueIn 10 digits
      let written := sign ++ whole ++ (if fraction.isEmpty then [] else '.' :: fraction) ++
        (match exponent with
        | none => []
        | some (sign, digits) => 'e' :: sign ++ digits)
      if sign ≠ ['-'] ∧ isTooLarge (valueIn 10 (whole ++ fraction)) (power - fraction.length) then
        none
      else return (.float (String.ofList written), rest)
  match s with
  | '+' :: 'i' :: _ | '+' :: 'n' :: _ => word ['+'] (s.drop 1)
  | '-' :: 'i' :: _ | '-' :: 'n' :: _ => word ['-'] (s.drop 1)
  | 'i' :: _ | 'n' :: _ => word [] s
  | _ => number

/-! ### Dates and times -/

/-- A number of exactly this many digits within bounds. -/
def fixedNumber? (width low high : Nat) (s : List Char) : Option (Nat × List Char) := do
  let digits := s.take width
  if digits.length = width then
    let n ← Decimal.read? digits
    if low ≤ n ∧ n ≤ high then return (n, s.drop width) else none
  else none

def char? (c : Char) : List Char → Option (List Char)
  | d :: rest => if d = c then some rest else none
  | [] => none

/-- The rest after a date. -/
def date? (s : List Char) : Option (List Char) := do
  let (year, s) ← fixedNumber? 4 0 9999 s
  let s ← char? '-' s
  let (month, s) ← fixedNumber? 2 1 12 s
  let s ← char? '-' s
  let (day, s) ← fixedNumber? 2 1 31 s
  if Calendar.isDay year month day then return s else none

/-- The rest after a time of day. -/
def time? (s : List Char) : Option (List Char) := do
  let (_, s) ← fixedNumber? 2 0 23 s
  let s ← char? ':' s
  let (_, s) ← fixedNumber? 2 0 59 s
  let s ← char? ':' s
  let (_, s) ← fixedNumber? 2 0 60 s
  match s with
  | '.' :: rest =>
    match rest.takeWhile Char.isDigit with
    | [] => none
    | _ => return rest.dropWhile Char.isDigit
  | s => return s

/-- The rest after the distance from universal time, which may be missing. -/
def zone? (s : List Char) : Option (List Char) :=
  let clock (s : List Char) : Option (List Char) := do
    let (_, s) ← fixedNumber? 2 0 23 s
    let s ← char? ':' s
    let (_, s) ← fixedNumber? 2 0 59 s
    return s
  match s with
  | 'Z' :: rest | 'z' :: rest => some rest
  | '+' :: rest | '-' :: rest => clock rest
  | s => some s

/-- A date, a time of day, or both. -/
def datetime? (s : List Char) : Option (Value × List Char) := do
  let rest ← match date? s with
    | none => time? s
    | some rest =>
      match rest with
      | 'T' :: tail | 't' :: tail => (time? tail).bind zone?
      | ' ' :: tail =>
        if (fixedNumber? 2 0 23 tail).any fun found => found.2.head? = some ':' then
          (time? tail).bind zone?
        else some rest
      | rest => some rest
  return (.datetime (String.ofList (s.take (s.length - rest.length))), rest)

end ContainerFleet.Toml
