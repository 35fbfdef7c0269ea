import ContainerFleet.Command.Arguments

/-!
The texts that explain the command line, laid out from the same specifications that it is read by.
-/

namespace ContainerFleet.Command

def programName : String := "dockman"

def programVersion : String := "0.1.0"

/-- The version of the program, or that of one of its commands. -/
def versionText (command : Option String) : String :=
  match command with
  | none => programName ++ " " ++ programVersion
  | some name => programName ++ "-" ++ name ++ " " ++ programVersion

/-- Blanks that fill a text up to a width. -/
def fill (width : Nat) (s : String) : String :=
  String.ofList (List.replicate (width - s.length) ' ')

/-- The name of an option's value. -/
def valueName (long : String) : String :=
  String.ofList (long.toList.map fun c => if c = '-' then '_' else c.toUpper)

namespace OptionSpec

/-- The option with its value. -/
def usage (o : OptionSpec) : String :=
  let value := " <" ++ valueName o.long ++ ">"
  "--" ++ o.long ++
    match o.kind with
    | .switch => ""
    | .value => value
    | .values => value ++ "..."

/-- The option with its letter in front. -/
def heading (o : OptionSpec) : String :=
  match o.short with
  | some c => "  -" ++ String.singleton c ++ ", " ++ o.usage
  | none => "      " ++ o.usage

/-- Where an option stands among those defined at the same place. -/
def sortKey (o : OptionSpec) : String :=
  match o.short with
  | some c => String.singleton c ++ "0"
  | none => o.long

end OptionSpec

def helpOption : OptionSpec := ⟨"help", some 'h', .switch, "Print help"⟩

def versionOption : OptionSpec := ⟨"version", some 'V', .switch, "Print version"⟩

/-- The options of all commands and those of one, by their places in the two lists. -/
def shownOptions (own : List OptionSpec) : List OptionSpec :=
  let placed := (commonOptions.zipIdx ++ own.zipIdx).mergeSort fun a b =>
    decide (a.2 < b.2 ∨ (a.2 = b.2 ∧ a.1.sortKey ≤ b.1.sortKey))
  placed.map Prod.fst ++ [helpOption, versionOption]

/-- How wide a screen is taken to be. -/
def screenWidth : Nat := 100

/-- The width of the longest option. -/
def longestUsage (options : List OptionSpec) : Nat :=
  (options.map fun o => o.usage.length).foldl max 2

/-- Whether descriptions stand on lines of their own: they do when one would not fit beside options
that take up much of the screen. -/
def onOwnLines (options : List OptionSpec) : Bool :=
  let taken := longestUsage options + 12
  decide (2 * screenWidth < 5 * taken) &&
    options.any fun o => decide (screenWidth < taken + o.about.length)

def optionLine (ownLine : Bool) (width : Nat) (o : OptionSpec) : String :=
  if ownLine then o.heading ++ "\n          " ++ o.about
  else o.heading ++ fill width o.usage ++ "  " ++ o.about

def optionsText (options : List OptionSpec) : String :=
  let lines := options.map (optionLine (onOwnLines options) (longestUsage options))
  "Options:\n" ++ String.intercalate "\n" lines

/-- The line about one command in the list of all. -/
def commandLine (width : Nat) (command : String × String) : String :=
  "  " ++ command.1 ++ fill width command.1 ++ "  " ++ command.2

def commandsText : String :=
  let shown := commands.map (fun c => (c.name, c.about)) ++
    [("help", "Print this message or the help of the given subcommand(s)")]
  let width := (shown.map fun c => c.1.length).foldl max 0
  "Commands:\n" ++ String.intercalate "\n" (shown.map (commandLine width))

/-- What the program says about itself, or about one of its commands. -/
def helpText (command : Option String) : String :=
  match command.bind command? with
  | none =>
    "Docker fleet manager\n\nUsage: " ++ programName ++ " [OPTIONS] <COMMAND>\n\n" ++
      commandsText ++ "\n\n" ++ optionsText (shownOptions [])
  | some c =>
    c.about ++ "\n\nUsage: " ++ programName ++ " " ++ c.name ++ " [OPTIONS]\n\n" ++
      optionsText (shownOptions c.options)

end ContainerFleet.Command
