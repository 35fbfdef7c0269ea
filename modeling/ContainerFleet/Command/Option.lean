/-!
Reading options from the words of a command line. An option has a long name, perhaps a letter, and
takes no value, one, or as many as follow.
-/

namespace ContainerFleet.Command

inductive OptionKind where
  | switch
  | value
  | values
deriving DecidableEq, Repr

structure OptionSpec where
  long : String
  short : Option Char
  kind : OptionKind
  /-- What the option is for. -/
  about : String
deriving DecidableEq, Repr

/-- An option that was given, with its values. -/
structure GivenOption where
  name : String
  values : List String
deriving DecidableEq, Repr

/-- Why reading options ended. -/
inductive OptionEnd where
  | endOfLine
  /-- A word that is no option, and the words after it. -/
  | word (w : String) (rest : List String)
  | help
  | version
  | malformed
deriving DecidableEq, Repr

/-- What came of one word: options and the words that are left, or the end. -/
inductive WordRead where
  | options (given : List GivenOption) (rest : List String)
  | stop (why : OptionEnd)
deriving DecidableEq, Repr

/-- Whether a word looks like an option and so cannot be the value of one. -/
def looksLikeOption (word : String) : Bool :=
  match word.toList with
  | '-' :: _ :: _ => true
  | _ => false

/-- An option whose value was not written in the same word. -/
def takeValues (spec : OptionSpec) (rest : List String) : WordRead :=
  match spec.kind with
  | .switch => .options [⟨spec.long, []⟩] rest
  | .value =>
    match rest with
    | value :: rest =>
      if looksLikeOption value then .stop .malformed else .options [⟨spec.long, [value]⟩] rest
    | [] => .stop .malformed
  | .values =>
    match rest.takeWhile fun word => !looksLikeOption word with
    | [] => .stop .malformed
    | values => .options [⟨spec.long, values⟩] (rest.drop values.length)

/-- An option with its long name, after the two dashes. -/
def readLong (specs : List OptionSpec) (text : List Char) (rest : List String) : WordRead :=
  let name := String.ofList (text.takeWhile (· != '='))
  match text.dropWhile (· != '=') with
  | [] =>
    if name = "help" then .stop .help
    else if name = "version" then .stop .version
    else
      match specs.find? fun spec => spec.long = name with
      | some spec => takeValues spec rest
      | none => .stop .malformed
  | _ :: value =>
    match specs.find? fun spec => spec.long = name with
    | some spec =>
      if spec.kind = .switch then .stop .malformed
      else .options [⟨spec.long, [String.ofList value]⟩] rest
    | none => .stop .malformed

/-- Options by their letters, in one word after a dash. -/
def readShort (specs : List OptionSpec) : List Char → List GivenOption → List String → WordRead
  | [], given, rest => .options given rest
  | c :: more, given, rest =>
    if c = 'h' then .stop .help
    else if c = 'V' then .stop .version
    else
      match specs.find? fun spec => spec.short = some c with
      | none => .stop .malformed
      | some spec =>
        if spec.kind = .switch then readShort specs more (given ++ [⟨spec.long, []⟩]) rest
        else
          match more with
          | [] =>
            match takeValues spec rest with
            | .options taken rest => .options (given ++ taken) rest
            | stop => stop
          | '=' :: value => .options (given ++ [⟨spec.long, [String.ofList value]⟩]) rest
          | value => .options (given ++ [⟨spec.long, [String.ofList value]⟩]) rest

def readWord (specs : List OptionSpec) (word : String) (rest : List String) : WordRead :=
  match word.toList with
  | ['-', '-'] =>
    match rest with
    | [] => .stop .endOfLine
    | _ => .stop .malformed
  | '-' :: '-' :: text => readLong specs text rest
  | '-' :: c :: more => readShort specs (c :: more) [] rest
  | _ => .stop (.word word rest)

/-- Options from the front of at most `fuel` words, and why there are no more. -/
def readWithin (specs : List OptionSpec) : Nat → List String → List GivenOption × OptionEnd
  | _, [] => ([], .endOfLine)
  | 0, _ => ([], .malformed)
  | fuel + 1, word :: rest =>
    match readWord specs word rest with
    | .stop why => ([], why)
    | .options given rest =>
      let (more, why) := readWithin specs fuel rest
      (given ++ more, why)

/-- The options at the front of a command line, and why there are no more. -/
def readOptions (specs : List OptionSpec) (words : List String) :
    List GivenOption × OptionEnd :=
  readWithin specs words.length words

/-- Whether an option that may be given once was given more often. -/
def hasRepeated (specs : List OptionSpec) (given : List GivenOption) : Bool :=
  specs.any fun spec =>
    spec.kind ≠ .values && decide (1 < given.countP fun g => g.name = spec.long)

def isGiven (given : List GivenOption) (name : String) : Bool :=
  given.any fun g => g.name = name

/-- The value of an option. -/
def valueOf? (given : List GivenOption) (name : String) : Option String :=
  (given.find? fun g => g.name = name).bind fun g => g.values.head?

/-- All values of an option. -/
def valuesOf (given : List GivenOption) (name : String) : List String :=
  (given.filter fun g => g.name = name).flatMap GivenOption.values

end ContainerFleet.Command
