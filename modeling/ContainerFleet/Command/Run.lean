import ContainerFleet.Command.Arguments
import ContainerFleet.Config.File
import ContainerFleet.Host.Fleet
import ContainerFleet.Host.Listing
import ContainerFleet.Text.Printable

/-!
What the program does from its command line to its end: it reads the configuration, connects the
fleet, carries out the command, and closes all hosts.
-/

namespace ContainerFleet

open ContainerFleet.Text

/-- What the program asks of the world. -/
inductive CommandRequest where
  | file (q : Files.Request)
  /-- Has the store and the ways to the hosts set up as configured. -/
  | configure (config : FleetConfig)
  | connection (q : ConnectionRequest)
  | onHost (client : Handle) (q : UpdateRequest)
  /-- Writes a text and a line break. -/
  | print (text : String)

namespace CommandRequest

def Reply : CommandRequest → Type
  | file q => q.Reply
  | configure _ => Unit
  | connection q => q.Reply
  | onHost _ q => q.Reply
  | print _ => Unit

end CommandRequest

def commandInterface : Interface := ⟨CommandRequest, CommandRequest.Reply⟩

abbrev CommandProgram (α : Type) : Type :=
  Program commandInterface α

/-- Why the program failed: an error, and what caused it step by step. -/
structure CommandError where
  message : String
  causes : List String
deriving DecidableEq, Repr

namespace CommandError

/-- A cause on lines of its own, with its number if there are several. -/
def causeLine (numbered : Bool) (cause : String × Nat) : String :=
  if numbered then
    "\n" ++ String.ofList ((Decimal.write cause.2).leftpad 5 ' ') ++ ": " ++ cause.1
  else "\n    " ++ cause.1

/-- The error as the program shows it. -/
def toText (e : CommandError) : String :=
  let causes :=
    if e.causes.isEmpty then ""
    else "\n\nCaused by:" ++
      String.join (e.causes.zipIdx.map (causeLine (decide (1 < e.causes.length))))
  "Error: " ++ e.message ++ causes ++ "\n"

def ofText (message : String) : CommandError :=
  ⟨message, []⟩

def daemonCauses (e : DaemonError) : List String :=
  match e with
  | .api failure => [e.message, failure.message]
  | e => [e.message]

def storeCauses (e : StoreError) : List String :=
  match e with
  | .file reason => [e.message, reason]
  | .malformed reason => [e.message, reason]

def configCauses (e : ConfigError) : List String :=
  match e with
  | .parse => [e.message, "malformed text"]
  | e => [e.message]

def ofUpdateError (e : UpdateError) : CommandError where
  message := e.message
  causes :=
    match e with
    | .daemon e => daemonCauses e
    | .store e => storeCauses e
    | .noMatch _ _ => []

end CommandError

namespace CommandProgram

def print (text : String) : CommandProgram Unit :=
  Program.call (I := commandInterface) (.print text)

def configure (config : FleetConfig) : CommandProgram Unit :=
  Program.call (I := commandInterface) (.configure config)

def ofFiles {α : Type} (p : FileProgram α) : CommandProgram α :=
  p.interpret fun q => Program.call (I := commandInterface) (.file q)

def ofConnections {α : Type} (p : ConnectionProgram α) : CommandProgram α :=
  p.interpret fun q => Program.call (I := commandInterface) (.connection q)

/-- What runs against one host of the fleet. -/
def onHost {α : Type} (client : Handle) (p : UpdateProgram α) : CommandProgram α :=
  p.interpret fun q => Program.call (I := commandInterface) (.onHost client q)

end CommandProgram

namespace Command

/-- The configuration of a file that was asked for, or of the usual one. A usual file that is
missing or broken gives way to the defaults. -/
def loadConfig (env : Environment) (path : Option String) :
    FileProgram (Except CommandError FleetConfig) := do
  match path with
  | some path =>
    match ← FleetConfig.load env path with
    | .ok config => return .ok config
    | .error e => return .error ⟨"Failed to load config from " ++ quoted path, CommandError.configCauses e⟩
  | none =>
    match ← FleetConfig.load env env.configFile with
    | .ok config => return .ok config
    | .error _ => return .ok FleetConfig.default

/-- The host that a command is for: the one that was named, or the default. -/
def chosenService (fleet : Fleet) (host : Option String) :
    Except CommandError (Host × HostService) :=
  match host with
  | some name =>
    if fleet.registry.hosts.contains name then
      (fleet.service name).mapError fun e => .ofText e.message
    else .error (.ofText ("Host " ++ quoted name ++ " is not connected"))
  | none => fleet.defaultService.mapError fun e => .ofText e.message

/-- The hosts that an update is for. -/
def chosenServices (fleet : Fleet) (a : UpdateArguments) :
    Except CommandError (List (Host × HostService)) :=
  if a.allHosts then
    fleet.registry.names.mapM fun name =>
      (fleet.service name).mapError fun e => .ofText e.message
  else (chosenService fleet a.host).map fun s => [s]

/-- The update run on one host that the command line asks for. -/
def updateHost (s : HostService) (a : UpdateArguments) (policy : UpdatePolicy) :
    UpdateProgram (Except UpdateError UpdateReport) :=
  match a.selfContainer, a.image with
  | some id, _ => s.updateSelf id
  | none, some image => s.updateByImage image policy
  | none, none =>
    if a.containers.isEmpty then s.updateAll policy else s.updateById a.containers policy

/-- Shows the reports, and counts what failed: containers, and hosts without a report. -/
def showReports : List (Except UpdateError UpdateReport) → CommandProgram Nat
  | [] => return 0
  | .ok report :: rest => do
    CommandProgram.print report.toText
    return report.failed + (← showReports rest)
  | .error _ :: rest => do return 1 + (← showReports rest)

/-- Updates the chosen hosts side by side, their requests in the order that the turns say. -/
def update (turns : List Nat) (fleet : Fleet) (a : UpdateArguments) :
    CommandProgram (Except CommandError Unit) :=
  match chosenServices fleet a with
  | .error e => return .error e
  | .ok services => do
    let policy := a.policy fleet.config.updater.policy
    let results ← Program.interleave turns
      (services.map fun (host, s) => CommandProgram.onHost host.client (updateHost s a policy))
    let failed ← showReports results
    if failed = 0 then return .ok ()
    else return .error (.ofText (String.ofList (Decimal.write failed) ++ " update(s) failed"))

/-- How an update of the fleet ends in which so much failed. -/
def verdict (failed : Nat) : Except CommandError Unit :=
  if failed = 0 then .ok ()
  else .error (.ofText (String.ofList (Decimal.write failed) ++ " update(s) failed"))

/-- Shows the reports, and counts what failed: what `showReports` counts, and hosts whose update
broke down. -/
def showOutcomes (outcomes : List (Option (Except UpdateError UpdateReport))) :
    CommandProgram Nat := do
  let failed ← showReports (outcomes.filterMap id)
  return failed + outcomes.countP Option.isNone

/-- Updates the chosen hosts side by side like `update`, where the update of a host breaks down after
as many requests as are given for its name. -/
def updateBreaking (turns : List Nat) (breakdown : String → Option Nat) (fleet : Fleet)
    (a : UpdateArguments) : CommandProgram (Except CommandError Unit) :=
  match chosenServices fleet a with
  | .error e => return .error e
  | .ok services => do
    let policy := a.policy fleet.config.updater.policy
    let outcomes ← Program.interleave turns
      (services.map fun (host, s) =>
        (CommandProgram.onHost host.client (updateHost s a policy)).breaking (breakdown host.name))
    return verdict (← showOutcomes outcomes)

def pendingLine (host : String) (u : ImageUpdate) : String :=
  host ++ "  " ++ u.imageId ++ "  -> " ++ u.updateRef ++ "  (checked " ++
    u.checkedAt.toPlainText ++ ")"

/-- Prints lines one after another. -/
def printAll : List String → CommandProgram Unit
  | [] => return ()
  | line :: lines => do
    CommandProgram.print line
    printAll lines

/-- Shows the detected updates of a host in the order of their images. -/
def pending (fleet : Fleet) (host : Option String) : CommandProgram (Except CommandError Unit) :=
  match chosenService fleet host with
  | .error e => return .error e
  | .ok (host, s) => do
    match ← CommandProgram.onHost host.client s.pendingUpdates with
    | .error e => return .error (.ofUpdateError e)
    | .ok [] =>
      CommandProgram.print ("No pending updates on " ++ host.name)
      return .ok ()
    | .ok found =>
      let records := (found.map Prod.snd).mergeSort fun a b => decide (a.imageId ≤ b.imageId)
      printAll (records.map (pendingLine host.name))
      return .ok ()

/-- Shows the connected hosts. -/
def hosts (fleet : Fleet) (default : String) : CommandProgram (Except CommandError Unit) := do
  let lines := (fleet.registry.names.filterMap fun name => fleet.registry.hosts.get? name).map
    fun h => (⟨h.name, h.kind, Timestamp.ofSinceEpoch h.verified⟩ : HostLine)
  CommandProgram.print (HostLine.listing lines (some default))
  return .ok ()

def act (turns : List Nat) (fleet : Fleet) (default : String) :
    Action → CommandProgram (Except CommandError Unit)
  | .hosts => hosts fleet default
  | .update a => update turns fleet a
  | .pending host => pending fleet host

/-- The turns in which a program deals with its hosts: when it connects them, and when it updates
them. -/
structure Turns where
  connecting : List Nat
  updating : List Nat
deriving DecidableEq, Repr

/-- The program from its arguments to its end. -/
def run (turns : Turns) (env : Environment) (a : Arguments) :
    CommandProgram (Except CommandError Unit) := do
  match ← CommandProgram.ofFiles (loadConfig env a.config) with
  | .error e => return .error e
  | .ok config =>
    CommandProgram.configure config
    match ← CommandProgram.ofConnections ((Fleet.ofConfig config).bootstrap turns.connecting) with
    | (.error e, _) => return .error ⟨"Failed to connect the fleet", [e.message]⟩
    | (.ok default, fleet) =>
      let result ← act turns.updating fleet default a.action
      let _ ← CommandProgram.ofConnections fleet.shutdown
      return result

end Command

end ContainerFleet
