import ContainerFleet.Daemon.Call
import ContainerFleet.Error
import ContainerFleet.Host.Kind
import ContainerFleet.Program

/-!
How a host is connected: a session to its machine unless it is the local one, a client of its
daemon, and a first call that shows that the daemon answers. What was opened on the way to a failure
is closed again.
-/

namespace ContainerFleet

/-- Stands for something open: the host it belongs to, and its number among those of the host. -/
structure Handle where
  host : String
  number : Nat
deriving DecidableEq, Repr

/-- What came of an attempt to connect, or of looking for a session. -/
inductive Attempted (α : Type) where
  | done (a : α)
  | failed (e : ConnectionError)
  /-- It broke down, which no caller foresees. -/
  | brokenDown
deriving DecidableEq, Repr

/-- What came of dialing a daemon. -/
inductive Dialed where
  | connected (client : Handle)
  | failed (e : ConnectionError)
  | brokenDown
deriving DecidableEq, Repr

/-- What came of asking a daemon to identify itself. -/
inductive Probed where
  | answered (info : DaemonInfo)
  | failed (e : DaemonError)
  | brokenDown
deriving DecidableEq, Repr

/-- What the reply of a daemon makes of it. -/
def Probed.ofReply : Except DaemonError DaemonInfo → Probed
  | .ok info => .answered info
  | .error e => .failed e

/-- What connecting a host asks of the world. -/
inductive ConnectionRequest where
  /-- A session to the machine of a host; none when no machine has this name. -/
  | openSession (host : String)
  /-- A client of a host's daemon, through a session or on the local machine. -/
  | dial (host : String) (session : Option Handle)
  /-- Asks a daemon to identify itself. -/
  | probe (client : Handle)
  | closeClient (client : Handle)
  | closeSession (session : Handle)
  | now
deriving DecidableEq, Repr

namespace ConnectionRequest

def Reply : ConnectionRequest → Type
  | openSession _ => Attempted (Option Handle)
  | dial _ _ => Dialed
  | probe _ => Probed
  | closeClient _ => Unit
  | closeSession _ => Unit
  | now => Moment

end ConnectionRequest

def connectionInterface : Interface := ⟨ConnectionRequest, ConnectionRequest.Reply⟩

abbrev ConnectionProgram (α : Type) : Type :=
  Program connectionInterface α

namespace ConnectionProgram

def openSession (host : String) : ConnectionProgram (Attempted (Option Handle)) :=
  Program.call (I := connectionInterface) (.openSession host)

def dial (host : String) (session : Option Handle) : ConnectionProgram Dialed :=
  Program.call (I := connectionInterface) (.dial host session)

def probe (client : Handle) : ConnectionProgram Probed :=
  Program.call (I := connectionInterface) (.probe client)

def closeClient (client : Handle) : ConnectionProgram Unit :=
  Program.call (I := connectionInterface) (.closeClient client)

def closeSession (session : Handle) : ConnectionProgram Unit :=
  Program.call (I := connectionInterface) (.closeSession session)

def now : ConnectionProgram Moment :=
  Program.call (I := connectionInterface) .now

end ConnectionProgram

/-- A host whose daemon has answered. -/
structure Host where
  name : String
  /-- When the host was connected. -/
  verified : Moment
  client : Handle
  /-- The session to its machine; none for the local host. -/
  session : Option Handle
deriving DecidableEq, Repr

namespace Host

def kind (h : Host) : HostKind :=
  if h.session.isSome then .ssh else .local

def isLocal (h : Host) : Bool :=
  h.kind == .local

/-- Closes a session if there is one. -/
def closeSession : Option Handle → ConnectionProgram Unit
  | some session => ConnectionProgram.closeSession session
  | none => return ()

/-- Closes a host's client, and then the session behind it. -/
def close (h : Host) : ConnectionProgram Unit := do
  ConnectionProgram.closeClient h.client
  closeSession h.session

/-- Dials a daemon and has it answer. -/
def verify (name : String) (session : Option Handle) : ConnectionProgram (Attempted Host) := do
  match ← ConnectionProgram.dial name session with
  | .brokenDown => return .brokenDown
  | .failed e =>
    closeSession session
    return .failed e
  | .connected client =>
    let host : Host := ⟨name, ← ConnectionProgram.now, client, session⟩
    match ← ConnectionProgram.probe client with
    | .brokenDown => return .brokenDown
    | .answered _ => return .done host
    | .failed e =>
      host.close
      return .failed (.unavailable name e.message)

/-- A session to the machine of a host, which has to have one. -/
def remoteSession (name : String) : ConnectionProgram (Attempted Handle) := do
  match ← ConnectionProgram.openSession name with
  | .brokenDown => return .brokenDown
  | .failed e => return .failed e
  | .done (some session) => return .done session
  | .done none => return .failed (.ssh name "no SSH transport configured")

/-- Connects a host from the start. -/
def connect (name : String) (onThisMachine : Bool) : ConnectionProgram (Attempted Host) :=
  if onThisMachine then verify name none
  else do
    match ← remoteSession name with
    | .brokenDown => return .brokenDown
    | .failed e => return .failed e
    | .done session => verify name (some session)

end Host

end ContainerFleet
