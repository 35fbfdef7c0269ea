import ContainerFleet.Command.Option
import ContainerFleet.Policy

/-!
The command line of the program: options for all commands, then a command with options of its own.
-/

namespace ContainerFleet.Command

/-- What is updated, and how. -/
structure UpdateArguments where
  host : Option String
  allHosts : Bool
  force : Bool
  notifyOnly : Bool
  optInOnly : Bool
  allowSelf : Bool
  image : Option String
  containers : List String
  /-- This program's own container, which is to be replaced. -/
  selfContainer : Option String
deriving DecidableEq, Repr

namespace UpdateArguments

/-- The configured choices with those of the command line: what one of them asks for is done. -/
def policy (a : UpdateArguments) (configured : UpdatePolicy) : UpdatePolicy where
  allowSelfUpdate := configured.allowSelfUpdate || a.allowSelf
  forceUpdate := configured.forceUpdate || a.force
  notifyOnly := configured.notifyOnly || a.notifyOnly
  optInOnly := configured.optInOnly || a.optInOnly

/-- Whether options were combined that exclude each other. -/
def hasConflict (a : UpdateArguments) : Bool :=
  (a.host.isSome && a.allHosts) || (a.image.isSome && !a.containers.isEmpty) ||
    (a.selfContainer.isSome && (a.image.isSome || !a.containers.isEmpty))

end UpdateArguments

inductive Action where
  /-- Lists the connected hosts. -/
  | hosts
  | update (a : UpdateArguments)
  /-- Shows the detected updates of a host. -/
  | pending (host : Option String)
deriving DecidableEq, Repr

structure Arguments where
  /-- The configuration file; the usual one when none is given. -/
  config : Option String
  action : Action
deriving DecidableEq, Repr

/-- What a command line asks for. -/
inductive Parsed where
  | run (a : Arguments)
  | help (command : Option String)
  | version (command : Option String)
  | malformed
deriving DecidableEq, Repr

def commonOptions : List OptionSpec :=
  [⟨"config", some 'c', .value, "Path to configuration file"⟩,
    ⟨"log-level", none, .value, "Log level (error, warn, info, debug, trace) [default: info]"⟩,
    ⟨"foreground", some 'f', .switch, "Verbose output (debug logging)"⟩]

def hostOption (about : String) : OptionSpec :=
  ⟨"host", none, .value, about⟩

def updateOptions : List OptionSpec :=
  [hostOption "Host to update (default host when omitted)",
    ⟨"all-hosts", none, .switch, "Update every host in parallel"⟩,
    ⟨"force", none, .switch, "Ignore \x60dockman.update.disable\x60 labels"⟩,
    ⟨"notify-only", none, .switch, "Only record available updates"⟩,
    ⟨"opt-in-only", none, .switch, "Only update containers labelled \x60dockman.update\x60"⟩,
    ⟨"allow-self", none, .switch, "Update dockman's own container inside the loop"⟩,
    ⟨"image", none, .value, "Only containers created from this image reference"⟩,
    ⟨"container", none, .values, "Only these containers (ID, ID prefix or name)"⟩,
    ⟨"self-container", none, .value, "Replace dockman's own container with this ID"⟩]

def pendingOptions : List OptionSpec :=
  [hostOption "Host to query (default host when omitted)"]

/-- A command of the program. -/
structure CommandSpec where
  name : String
  about : String
  /-- The options besides those of all commands. -/
  options : List OptionSpec
deriving DecidableEq, Repr

def commands : List CommandSpec :=
  [⟨"hosts", "Connect the fleet and list the reachable hosts", []⟩,
    ⟨"update", "Update containers to the newest image of their tag", updateOptions⟩,
    ⟨"pending", "Show recorded updates for images present on a host", pendingOptions⟩]

def command? (name : String) : Option CommandSpec :=
  commands.find? fun c => c.name = name

def updateArguments (given : List GivenOption) : UpdateArguments where
  host := valueOf? given "host"
  allHosts := isGiven given "all-hosts"
  force := isGiven given "force"
  notifyOnly := isGiven given "notify-only"
  optInOnly := isGiven given "opt-in-only"
  allowSelf := isGiven given "allow-self"
  image := valueOf? given "image"
  containers := valuesOf given "container"
  selfContainer := valueOf? given "self-container"

/-- The action of a command with its options; none when they exclude each other. -/
def action? (command : String) (given : List GivenOption) : Option Action :=
  if command = "update" then
    let a := updateArguments given
    if a.hasConflict then none else some (.update a)
  else if command = "pending" then some (.pending (valueOf? given "host"))
  else some .hosts

/-- The rest of a command line after the name of a command. -/
def parseCommand (before : List GivenOption) (command : String) (specs : List OptionSpec)
    (words : List String) : Parsed :=
  let specs := commonOptions ++ specs
  match readOptions specs words with
  | (_, .help) => .help (some command)
  | (_, .version) => .version (some command)
  | (given, .endOfLine) =>
    let config := (valueOf? given "config").or (valueOf? before "config")
    if hasRepeated specs given ∨ valueOf? given "config" = some "" then .malformed
    else
      match action? command given with
      | some action => .run ⟨config, action⟩
      | none => .malformed
  | _ => .malformed

/-- What the words of a command line ask for. -/
def parse (words : List String) : Parsed :=
  match readOptions commonOptions words with
  | (_, .help) => .help none
  | (_, .version) => .version none
  | (given, .word w rest) =>
    if hasRepeated commonOptions given ∨ valueOf? given "config" = some "" then .malformed
    else if w = "help" then
      match rest with
      | [] => .help none
      | [command] => if (command? command).isSome then .help (some command) else .malformed
      | _ => .malformed
    else
      match command? w with
      | some command => parseCommand given command.name command.options rest
      | none => .malformed
  | _ => .malformed

end ContainerFleet.Command
