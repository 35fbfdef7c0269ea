import ContainerFleet.Command.Help
import ContainerFleet.Command.Run
import ContainerFleet.Host.Session
import ContainerFleet.Store.File
import ContainerFleet.Store.Memory
import Std.Time.DateTime.Timestamp

/-!
The command line. Files and the terminal are those of the machine; no transport to a daemon is built
in, so that every host counts as unreachable.
-/

namespace ContainerFleet.Terminal

/-- Carries out a program request by request. -/
def perform {I : Interface} {α : Type} (handle : (q : I.Request) → IO (I.Reply q)) :
    Program I α → IO α
  | .done a => return a
  | .ask q next => do
    let r ← handle q
    perform handle (next r)

def fileError : IO.Error → FileError
  | .noFileOrDirectory _ _ _ => .notFound
  | .alreadyExists _ _ _ => .exists
  | e => .other (toString e)

/-- Carries out something that may fail. -/
def attempt {α : Type} (action : IO α) : IO (Except FileError α) := do
  match ← action.toBaseIO with
  | .ok a => return .ok a
  | .error e => return .error (fileError e)

def handleFile : (q : Files.Request) → IO q.Reply
  | .isThere path => do
    match ← attempt (IO.FS.Handle.mk path .read) with
    | .ok _ => return true
    | .error _ => return false
  | .read path => attempt do
    let bytes ← IO.FS.readBinFile path
    return bytes.toList
  | .makeDirectories path => attempt (IO.FS.createDirAll path)
  | .write path bytes => attempt (IO.FS.writeBinFile path ⟨bytes.toArray⟩)
  | .rename source target => attempt (IO.FS.rename source target)

/-- What is kept while a command runs. -/
structure State where
  config : FleetConfig
  /-- The records of a store that is not kept in a file. -/
  records : MemoryStore

def unreachable : DaemonError := .unexpected "no transport to the daemon"

def now : IO Moment := do
  return (← Std.Time.Timestamp.now).toNanosecondsSinceUnixEpoch.val

def openSession (state : IO.Ref State) (host : String) :
    IO (Attempted (Option Handle)) := do
  match ← perform handleFile (MachineProfile.forSession (← state.get).config.machines host) with
  | .error e => return .failed e
  | .ok none => return .done none
  | .ok (some profile) => return .failed (profile.unreachable host)

def handleConnection (state : IO.Ref State) : (q : ConnectionRequest) → IO q.Reply
  | .openSession host => openSession state host
  | .dial host _ => return Dialed.failed (.client host unreachable.message)
  | .probe _ => return Probed.failed unreachable
  | .closeClient _ => return ()
  | .closeSession _ => return ()
  | .now => now

def handleStore (state : IO.Ref State) (call : StoreCall) : IO call.Reply := do
  let s ← state.get
  match s.config.updateStorePath with
  | some path => perform handleFile ((FileStore.mk path).perform call)
  | none =>
    let (reply, records) := MemoryStore.handle call s.records
    state.set { s with records := records }
    return reply

def handleUpdate (state : IO.Ref State) : (q : UpdateRequest) → IO q.Reply
  | .daemon _ => return Except.error unreachable
  | .pull _ => return some (.error unreachable)
  | .store call => handleStore state call
  | .get url _ => return HttpReply.mk (.error (.noAnswer url)) Duration.zero
  | .now => now
  | .sleepUntil _ => return ()
  | .isCancelled => return false

def handle (state : IO.Ref State) : (q : CommandRequest) → IO q.Reply
  | .file q => handleFile q
  | .configure config => state.modify fun s => { s with config := config }
  | .connection q => handleConnection state q
  | .onHost _ q => handleUpdate state q
  | .print text => IO.println text

/-- The surroundings that the program was started in. -/
def environment : IO Environment := do
  return ⟨(← IO.getEnv "HOME").getD ".", ← IO.getEnv "XDG_CONFIG_HOME"⟩

/-- Runs a command to its end and answers the exit code. -/
def runCommand (arguments : Command.Arguments) : IO UInt32 := do
  let state ← IO.mkRef { config := FleetConfig.default, records := .empty : State }
  match ← perform (handle state) (Command.run ⟨[], []⟩ (← environment) arguments) with
  | .ok () => return 0
  | .error e =>
    IO.eprint e.toText
    return 1

end ContainerFleet.Terminal

open ContainerFleet in
/-- Does what the words of the command line ask for. -/
def main (words : List String) : IO UInt32 := do
  match Command.parse words with
  | .run arguments => Terminal.runCommand arguments
  | .help command =>
    IO.println (Command.helpText command)
    return 0
  | .version command =>
    IO.println (Command.versionText command)
    return 0
  | .malformed =>
    IO.eprintln "error: malformed arguments; for more information, try '--help'"
    return 2
