import ContainerFleet.Config.Basic
import ContainerFleet.Host.Connection
import ContainerFleet.Update.Tasks

/-!
The connected hosts by their names, and which of them is the default: the local one when it is
there, otherwise the first in the order of names. A host is here only after its daemon has answered.
-/

namespace ContainerFleet

structure Registry where
  localName : String
  hosts : Map String Host
  /-- The host that was last elected; it may be gone. -/
  elected : Option String
deriving DecidableEq, Repr

namespace Registry

def empty (localName : String) : Registry :=
  ⟨localName, [], none⟩

def size (r : Registry) : Nat :=
  r.hosts.length

def isEmpty (r : Registry) : Bool :=
  r.hosts.isEmpty

/-- The names of the hosts in their order. -/
def names (r : Registry) : List String :=
  FleetConfig.sortNames (Map.keys r.hosts)

def get (r : Registry) (name : String) : Except RegistryError Host :=
  match r.hosts.get? name with
  | some host => .ok host
  | none => .error (.hostNotFound name)

/-- The default host, as long as it is connected. -/
def default? (r : Registry) : Option String :=
  r.elected.filter r.hosts.contains

/-- The host that an election chooses. -/
def candidate? (r : Registry) : Option String :=
  if r.hosts.contains r.localName then some r.localName else r.names.head?

def elect (r : Registry) : Registry :=
  { r with elected := r.candidate? }

def insert (r : Registry) (host : Host) : Registry :=
  { r with hosts := r.hosts.insert host.name host }

def erase (r : Registry) (name : String) : Registry :=
  { r with hosts := r.hosts.erase name }

/-- The hosts to connect at the start: the local one and some machines. -/
def candidates (r : Registry) (machines : List String) : List String :=
  r.localName :: machines.filter fun name => name ≠ r.localName

/-- The registry with the hosts that could be connected. -/
def insertConnected (r : Registry) (attempts : List (Attempted Host)) : Registry :=
  attempts.foldl (fun r attempt =>
    match attempt with
    | .done host => r.insert host
    | _ => r) r

/-- The end of a start: the default host, if any host could be connected. -/
def settle (r : Registry) : Except RegistryError String × Registry :=
  match r.candidate? with
  | some name => (.ok name, r.elect)
  | none => (.error .noReachableHosts, r)

/-- Connects the local host and some machines side by side, with the requests in the order that the
turns say. Answers the default host; fails only when no host could be connected. -/
def bootstrap (turns : List Nat) (r : Registry) (machines : List String) :
    ConnectionProgram (Except RegistryError String × Registry) := do
  let attempts ← Program.interleave turns
    ((r.candidates machines).map fun name => Host.connect name (name == r.localName))
  return (r.insertConnected attempts).settle

/-- The registry with a new host in place of an older one of the same name, which is closed. -/
def replaceHost (r : Registry) (host : Host) : ConnectionProgram Registry := do
  match r.hosts.get? host.name with
  | some previous => previous.close
  | none => pure ()
  let r := (r.erase host.name).insert host
  if r.default?.isNone || host.name == r.localName then return r.elect else return r

/-- Adds a host that is reached through a given session, or is on this machine. -/
def add (r : Registry) (name : String) (session : Option Handle) :
    ConnectionProgram (Attempted Unit × Registry) := do
  match ← Host.verify name session with
  | .brokenDown => return (.brokenDown, r)
  | .failed e => return (.failed e, r)
  | .done host => return (.done (), ← r.replaceHost host)

/-- Connects a host and adds it. -/
def connect (r : Registry) (name : String) : ConnectionProgram (Attempted Unit × Registry) :=
  if name = r.localName then r.add name none
  else do
    match ← Host.remoteSession name with
    | .brokenDown => return (.brokenDown, r)
    | .failed e => return (.failed e, r)
    | .done session => r.add name (some session)

/-- Closes and forgets a host; an unknown one is no error. -/
def delete (r : Registry) (name : String) : ConnectionProgram Registry := do
  match r.hosts.get? name with
  | some host => host.close
  | none => pure ()
  let r := r.erase name
  if r.elected = some name then return r.elect else return r

/-- Connects a host, or closes and forgets it. -/
def toggle (r : Registry) (name : String) (enabled : Bool) :
    ConnectionProgram (Attempted Unit × Registry) :=
  if enabled then r.connect name
  else do return (.done (), ← r.delete name)

/-- Deletes some hosts one after another. -/
def deleteAll : List String → Registry → ConnectionProgram Registry
  | [], r => return r
  | name :: names, r => do deleteAll names (← r.delete name)

/-- Closes all hosts. -/
def shutdown (r : Registry) : ConnectionProgram Registry :=
  deleteAll r.names r

end Registry

end ContainerFleet
