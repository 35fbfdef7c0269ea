import ContainerFleet.Daemon.Fault
import ContainerFleet.Daemon.Memory
import ContainerFleet.Store.Call
import ContainerFleet.Update.Request

/-!
A world in memory in which update runs can be carried out: a daemon and a store whose calls may
fail by rules, a network, a clock that jumps to the next timer, and a log of all calls. A call can
also be the moment at which the run is cancelled.
-/

namespace ContainerFleet

/-- The messages with which calls to a store fail, kind by kind. -/
structure StoreFaults where
  save : Option String
  delete : Option String
  find : Option String
deriving DecidableEq, Repr

namespace StoreFaults

def none : StoreFaults := ⟨.none, .none, .none⟩

def message? (f : StoreFaults) : StoreCall → Option String
  | .save _ => f.save
  | .delete _ _ => f.delete
  | .find _ _ => f.find

end StoreFaults

/-- A store with a state, and what its calls do to it. -/
structure StoreBackend (σ : Type) where
  handle : (call : StoreCall) → σ → call.Reply × σ

structure UpdateWorld (σ : Type) where
  daemon : MemoryDaemon
  /-- Whether the daemon answers at all. -/
  reachable : Bool
  faults : List FaultRule
  /-- The calls in which the run is cancelled. -/
  cancelOn : List CallPattern
  cancelled : Bool
  store : σ
  storeFaults : StoreFaults
  /-- What comes back from an address. -/
  network : String → HttpReply
  clock : Moment
  /-- The calls to daemon and store so far. -/
  calls : List String

namespace UpdateWorld

variable {σ : Type}

/-- Timers go off at whole milliseconds. -/
def tick : Int := 1000000

/-- The first whole millisecond that is not before a moment. -/
def nextTick (moment : Moment) : Moment :=
  -((-moment).fdiv tick) * tick

def wake (w : UpdateWorld σ) (moment : Moment) : UpdateWorld σ :=
  { w with clock := max w.clock (nextTick moment) }

/-- The world after a call was logged; the run is cancelled when the call is one of those. -/
def log (w : UpdateWorld σ) (call : String) : UpdateWorld σ :=
  { w with
    calls := w.calls ++ [call]
    cancelled := w.cancelled || w.cancelOn.any fun p => p.Matches call }

def refused : DaemonError :=
  .unexpected "connection refused"

/-- The error with which a logged call fails before it reaches the daemon. -/
def fault (w : UpdateWorld σ) (call : String) : Option DaemonError × UpdateWorld σ :=
  if w.reachable then
    let (error, faults) := FaultRule.next w.faults call
    (error, { w with faults := faults })
  else (some refused, w)

/-- Carries out one call to the daemon. -/
def callDaemon (w : UpdateWorld σ) (call : DaemonCall) : call.Reply × UpdateWorld σ :=
  match (w.log call.toText).fault call.toText with
  | (some e, w) => (.error e, w)
  | (none, w) =>
    let (reply, daemon) := w.daemon.perform w.clock call
    (reply, { w with daemon := daemon })

/-- Carries out a pull, which never ends once the run is cancelled. -/
def pullImage (w : UpdateWorld σ) (image : String) :
    Option (Except DaemonError Unit) × UpdateWorld σ :=
  match (w.log (DaemonCall.pull image).toText).fault (DaemonCall.pull image).toText with
  | (some e, w) => (some (.error e), w)
  | (none, w) =>
    if w.cancelled then (none, w)
    else
      let (reply, daemon) := w.daemon.perform w.clock (.pull image)
      (some reply, { w with daemon := daemon })

/-- Carries out one call to the store. -/
def callStore (backend : StoreBackend σ) (w : UpdateWorld σ) (call : StoreCall) :
    call.Reply × UpdateWorld σ :=
  let w := w.log call.toText
  match w.storeFaults.message? call with
  | some message => (.error (.file message), w)
  | none =>
    let (reply, store) := backend.handle call w.store
    (reply, { w with store := store })

/-- Carries out one request of an update run. -/
def handle (backend : StoreBackend σ) (q : UpdateRequest) (w : UpdateWorld σ) :
    q.Reply × UpdateWorld σ :=
  match q with
  | .daemon call => w.callDaemon call
  | .pull image => w.pullImage image
  | .store call => w.callStore backend call
  | .get url _ => (w.network url, w)
  | .now => (w.clock, w)
  | .sleepUntil moment => ((), w.wake moment)
  | .isCancelled => (w.cancelled, w)

end UpdateWorld

end ContainerFleet
