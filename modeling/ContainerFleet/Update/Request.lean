import ContainerFleet.Daemon.Call
import ContainerFleet.Http.Network
import ContainerFleet.Program
import ContainerFleet.Store.Call

/-!
What an update run asks of the world around it: its daemon, the store, the network, the clock, and
whether it has been cancelled.
-/

namespace ContainerFleet

inductive UpdateRequest where
  | daemon (call : DaemonCall)
  /-- Pulls an image, unless the run is cancelled before the pull ends. -/
  | pull (image : String)
  | store (call : StoreCall)
  /-- Asks an address by HTTP, for this long at most. -/
  | get (url : String) (timeout : Duration)
  | now
  | sleepUntil (moment : Moment)
  | isCancelled
deriving Repr

namespace UpdateRequest

def Reply : UpdateRequest → Type
  | daemon call => call.Reply
  | pull _ => Option (Except DaemonError Unit)
  | store call => call.Reply
  | get _ _ => HttpReply
  | now => Moment
  | sleepUntil _ => Unit
  | isCancelled => Bool

end UpdateRequest

def updateInterface : Interface := ⟨UpdateRequest, UpdateRequest.Reply⟩

/-- What runs against one host. -/
abbrev UpdateProgram (α : Type) : Type :=
  Program updateInterface α

namespace UpdateProgram

def daemon (call : DaemonCall) : UpdateProgram call.Reply :=
  Program.call (I := updateInterface) (.daemon call)

/-- Nothing when the pull was abandoned because the run was cancelled. -/
def pull (image : String) : UpdateProgram (Option (Except DaemonError Unit)) :=
  Program.call (I := updateInterface) (.pull image)

def store (call : StoreCall) : UpdateProgram call.Reply :=
  Program.call (I := updateInterface) (.store call)

def get (url : String) (timeout : Duration) : UpdateProgram HttpReply :=
  Program.call (I := updateInterface) (.get url timeout)

def now : UpdateProgram Moment :=
  Program.call (I := updateInterface) .now

def sleepUntil (moment : Moment) : UpdateProgram Unit :=
  Program.call (I := updateInterface) (.sleepUntil moment)

def isCancelled : UpdateProgram Bool :=
  Program.call (I := updateInterface) .isCancelled

def inspect (id : String) : UpdateProgram (Except DaemonError ContainerDetails) :=
  daemon (.inspect id)

def create (name : String) (spec : ContainerSpec) : UpdateProgram (Except DaemonError String) :=
  daemon (.create name spec)

def start (id : String) : UpdateProgram (Except DaemonError Unit) :=
  daemon (.start id)

def stop (id : String) (timeout : Duration) : UpdateProgram (Except DaemonError Unit) :=
  daemon (.stop id timeout)

def remove (id : String) : UpdateProgram (Except DaemonError Unit) :=
  daemon (.remove id)

def rename (id name : String) : UpdateProgram (Except DaemonError Unit) :=
  daemon (.rename id name)

end UpdateProgram

end ContainerFleet
