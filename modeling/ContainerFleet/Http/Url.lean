import ContainerFleet.Text.Decimal

/-!
Addresses of HTTP servers in the one form in which they are sent: scheme and host in small letters,
no port where the usual one is meant, a path without dots, and what cannot stand in an address
percent-encoded.
-/

namespace ContainerFleet.Url

open ContainerFleet.Text

/-- The digits of numbers in other bases, in capitals. -/
def digitChar (n : Nat) : Char :=
  (['0', '1', '2', '3', '4', '5', '6', '7', '8', '9', 'A', 'B', 'C', 'D', 'E', 'F'][n]?).getD '0'

/-- A byte as it stands in an address where it cannot stand for itself. -/
def encodeByte (b : UInt8) : List Char :=
  ['%', digitChar (b.toNat / 16), digitChar (b.toNat % 16)]

/-- A text with some characters and all that are not ASCII percent-encoded. -/
def percentEncode (reserved : List Char) (s : List Char) : List Char :=
  s.flatMap fun c =>
    if c.toNat < 0x20 ∨ 0x7e < c.toNat ∨ reserved.contains c then
      (String.singleton c).toUTF8.toList.flatMap encodeByte
    else [c]

/-- What cannot stand in a path, a query and a fragment. -/
def pathReserved : List Char := [' ', '"', '#', '<', '>', '?', '\x60', '\x7b', '\x7d']

def queryReserved : List Char := [' ', '"', '#', '<', '>', '\'']

def fragmentReserved : List Char := [' ', '"', '<', '>', '\x60']

/-- What cannot stand in the name of a host. -/
def hostForbidden : List Char :=
  [' ', '#', '/', ':', '<', '>', '?', '@', '[', '\\', ']', '^', '|', '%', '\x7f']

/-- The value of a digit in a base of at most 16. -/
def digitValue? (base : Nat) (c : Char) : Option Nat :=
  let v :=
    if c.isDigit then c.toNat - '0'.toNat
    else if 'a' ≤ c ∧ c ≤ 'f' then c.toNat - 'a'.toNat + 10
    else if 'A' ≤ c ∧ c ≤ 'F' then c.toNat - 'A'.toNat + 10
    else base
  if v < base then some v else none

/-- A number in some base; no digits are zero. -/
def numberIn? (base : Nat) (s : List Char) : Option Nat :=
  s.foldlM (fun n c => (digitValue? base c).map (n * base + ·)) 0

/-- A part of a numeric host: hexadecimal after `0x`, octal after `0`, decimal otherwise. -/
def hostNumber? : List Char → Option Nat
  | [] => none
  | '0' :: 'x' :: rest => numberIn? 16 rest
  | '0' :: 'X' :: rest => numberIn? 16 rest
  | '0' :: rest => numberIn? 8 rest
  | s => numberIn? 10 s

/-- The labels of a host's name, without an empty one at the end. -/
def labels (host : List Char) : List (List Char) :=
  let parts := host.splitOn '.'
  if 1 < parts.length ∧ parts.getLast? = some [] then parts.dropLast else parts

/-- Whether the last label of a host's name is a number, so that the whole has to be one. -/
def endsInNumber (host : List Char) : Bool :=
  match (labels host).getLast? with
  | none => false
  | some last => (last ≠ [] && last.all Char.isDigit) ||
      ((last.take 2 == ['0', 'x'] || last.take 2 == ['0', 'X']) && (hostNumber? last).isSome)

/-- The four bytes of a numeric host; the last number fills those that are left. -/
def numericHost? (host : List Char) : Option (List Char) := do
  let numbers ← (labels host).mapM hostNumber?
  let front := numbers.dropLast
  let last ← numbers.getLast?
  if 4 < numbers.length ∨ front.any (255 < ·) ∨ Nat.pow 256 (4 - front.length) ≤ last then none
  else
    let value := front.foldl (fun n b => n * 256 + b) 0 * Nat.pow 256 (4 - front.length) + last
    return List.intercalate ['.'] ([16777216, 65536, 256, 1].map fun unit =>
      Decimal.write (value / unit % 256))

/-- The digit of a number below 36 in the ASCII form of international names. -/
def punyDigit (n : Nat) : Char :=
  if n < 26 then Char.ofNat ('a'.toNat + n) else Char.ofNat ('0'.toNat + (n - 26))

/-- How the distance to the next character is damped. -/
def punyAdapt (delta points : Nat) (first : Bool) : Nat :=
  let delta := if first then delta / 700 else delta / 2
  let rec shrink (fuel delta k : Nat) : Nat :=
    match fuel with
    | 0 => k
    | fuel + 1 => if 455 < delta then shrink fuel (delta / 35) (k + 36) else k + 36 * delta / (delta + 38)
  shrink 64 (delta + delta / points) 0

/-- A distance in digits whose limits depend on their place. -/
def punyNumber (bias : Nat) : Nat → Nat → Nat → List Char
  | 0, _, _ => []
  | fuel + 1, k, q =>
    let t := if k ≤ bias then 1 else if bias + 26 ≤ k then 26 else k - bias
    if q < t then [punyDigit q]
    else punyDigit (t + (q - t) % (36 - t)) :: punyNumber bias fuel (k + 36) ((q - t) / (36 - t))

/-- The state of writing an international name in ASCII. -/
structure PunyState where
  delta : Nat
  bias : Nat
  handled : Nat
  first : Bool
  written : List Char

/-- A label of a host's name in ASCII. -/
def asciiLabel (label : List Char) : List Char :=
  if label.all fun c => c.toNat < 0x80 then label
  else
    let basic := label.filter fun c => c.toNat < 0x80
    let others := ((label.filter fun c => 0x80 ≤ c.toNat).map Char.toNat).mergeSort.eraseDups
    let visit (n : Nat) (s : PunyState) (c : Char) : PunyState :=
      if c.toNat < n then { s with delta := s.delta + 1 }
      else if c.toNat = n then
        { delta := 0
          bias := punyAdapt s.delta (s.handled + 1) s.first
          handled := s.handled + 1
          first := false
          written := s.written ++ punyNumber s.bias 64 36 s.delta }
      else s
    let step (state : PunyState × Nat) (n : Nat) : PunyState × Nat :=
      let (s, previous) := state
      let s := { s with delta := s.delta + (n - previous) * (s.handled + 1) }
      let s := label.foldl (visit n) s
      ({ s with delta := s.delta + 1 }, n + 1)
    let start : PunyState :=
      ⟨0, 72, basic.length, true, if basic.isEmpty then [] else basic ++ ['-']⟩
    ['x', 'n', '-', '-'] ++ (others.foldl step (start, 0x80)).1.written

/-- The host of an address, if the text can be one. -/
def host? (s : List Char) : Option (List Char) :=
  match s with
  | '[' :: rest =>
    match rest.reverse with
    | ']' :: inner =>
      let inner := inner.reverse.map Char.toLower
      if inner.all (fun c => (digitValue? 16 c).isSome || c == ':' || c == '.') ∧
          2 ≤ inner.count ':' then
        some ('[' :: inner ++ [']'])
      else none
    | _ => none
  | s =>
    let host := List.intercalate ['.'] ((s.map Char.toLower).splitOn '.' |>.map asciiLabel)
    if host.isEmpty ∨ host.any (fun c => c.toNat ≤ 0x20 || hostForbidden.contains c) then none
    else if endsInNumber host then numericHost? host
    else some host

/-- The port after a host, if the text can be one. The port of the scheme is left out. -/
def port? (usual : Nat) (s : List Char) : Option (List Char) :=
  if s.isEmpty then some []
  else
    match Decimal.read? s with
    | some n =>
      if n = usual then some []
      else if n < 65536 then some (':' :: Decimal.write n)
      else none
    | none => none

/-- Host and port of an address; what stands before an at sign is left out. -/
def authority? (usualPort : Nat) (s : List Char) : Option (List Char) := do
  let s := (s.reverse.takeWhile (· != '@')).reverse
  let portRev := s.reverse.takeWhile fun c => c != ':' && c != ']'
  match s.reverse.drop portRev.length with
  | ':' :: hostRev => return (← host? hostRev.reverse) ++ (← port? usualPort portRev.reverse)
  | _ => host? s

/-- Whether a part of a path means its directory, or the one above. -/
def isDot (s : List Char) : Bool :=
  ["." , "%2e"].any fun dot => dot.toList == s.map Char.toLower

def isDoubleDot (s : List Char) : Bool :=
  ["..", ".%2e", "%2e.", "%2e%2e"].any fun dots => dots.toList == s.map Char.toLower

/-- The parts of a path without dots. -/
def withoutDots : List (List Char) → List (List Char) → List (List Char)
  | done, [] => done
  | done, [last] =>
    if isDot last then done ++ [[]]
    else if isDoubleDot last then done.dropLast ++ [[]]
    else done ++ [last]
  | done, part :: rest =>
    if isDot part then withoutDots done rest
    else if isDoubleDot part then withoutDots done.dropLast rest
    else withoutDots (done ++ [part]) rest

/-- The path of an address. -/
def path (s : List Char) : List Char :=
  let parts := (s.map fun c => if c = '\\' then '/' else c).splitOn '/'
  let parts := if parts.head? = some [] then parts.tail else parts
  '/' :: List.intercalate ['/'] (withoutDots [] (parts.map (percentEncode pathReserved)))

def isSlash (c : Char) : Bool :=
  c == '/' || c == '\\'

/-- An address of this scheme, from what stands after the colon. -/
def complete? (scheme : List Char) (usualPort : Nat) (s : List Char) : Option (List Char) := do
  let s := s.dropWhile isSlash
  let place := s.takeWhile fun c => !isSlash c && c != '?' && c != '#'
  let rest := s.drop place.length
  let inPath := rest.takeWhile fun c => c != '?' && c != '#'
  let rest := rest.drop inPath.length
  let (query, rest) :=
    match rest with
    | '?' :: rest =>
      let inQuery := rest.takeWhile (· != '#')
      ('?' :: percentEncode queryReserved inQuery, rest.drop inQuery.length)
    | rest => ([], rest)
  let fragment :=
    match rest with
    | '#' :: rest => '#' :: percentEncode fragmentReserved rest
    | _ => []
  return scheme ++ "://".toList ++ (← authority? usualPort place) ++ path inPath ++ query ++ fragment

/-- The form in which an address is sent; none for a text that is no address of an HTTP server. -/
def normalize? (s : String) : Option String :=
  let isEdge (c : Char) : Bool := c.toNat ≤ 0x20
  let s := ((s.toList.dropWhile isEdge).reverse.dropWhile isEdge).reverse
  let s := s.filter fun c => c != '\t' && c != '\n' && c != '\r'
  let scheme := (s.takeWhile (· != ':')).map Char.toLower
  let rest := s.drop (scheme.length + 1)
  (if scheme = "http".toList then complete? scheme 80 rest
  else if scheme = "https".toList then complete? scheme 443 rest
  else none).map String.ofList

end ContainerFleet.Url
