import ContainerFleet.Host.Connection
import ContainerFleet.Store.Any
import ContainerFleet.Update.World

/-!
Hosts whose connections go as scripted, for fleets that are not real. Each client that is dialed has
a daemon in memory of its own; the clock and the store of updates are common to all.
-/

namespace ContainerFleet

open ContainerFleet.Text

/-- How one dialing of a host goes. -/
inductive DialOutcome where
  | healthy
  /-- A client is there, but each of its calls fails. -/
  | unreachable
  | failed
  | timedOut
  | brokenDown
deriving DecidableEq, Repr

/-- How asking for a session to a host goes. -/
inductive SessionOutcome where
  | opened
  | unknownMachine
  | failed (e : ConnectionError)
deriving DecidableEq, Repr

structure ConnectionScript where
  /-- How the dialings of each host go, one after another; the last one repeats. -/
  dials : Map String (List DialOutcome)
  sessions : Map String SessionOutcome
  /-- The daemons that clients are connected to, by host. -/
  worlds : Map String (UpdateWorld AnyStore)
  /-- What the world of a client starts from where the script names no daemon. -/
  blank : UpdateWorld AnyStore

/-- What has happened so far in a scripted world. -/
structure ConnectionWorld where
  script : ConnectionScript
  /-- How often each host was dialed. -/
  dialed : Map String Nat
  /-- How many sessions were opened to each host. -/
  sessions : Map String Nat
  clients : Map Handle (UpdateWorld AnyStore)
  /-- The store of updates that all hosts share. -/
  store : AnyStore
  clock : Moment
  log : List String

namespace ConnectionWorld

def start (script : ConnectionScript) : ConnectionWorld :=
  ⟨script, [], [], [], script.blank.store, script.blank.clock, []⟩

def logged (w : ConnectionWorld) (line : String) : ConnectionWorld :=
  { w with log := w.log ++ [line] }

def handleText (h : Handle) : String :=
  h.host ++ "#" ++ String.ofList (Decimal.write h.number)

/-- How the next dialing of a host goes. -/
def nextDial (w : ConnectionWorld) (host : String) : DialOutcome :=
  let outcomes := (w.script.dials.get? host).getD []
  let before := (w.dialed.get? host).getD 0
  (outcomes[before]?.or outcomes.getLast?).getD .failed

/-- A session that is new. -/
def freshSession (w : ConnectionWorld) (host : String) : Handle × ConnectionWorld :=
  let number := (w.sessions.get? host).getD 0 + 1
  (⟨host, number⟩, { w with sessions := w.sessions.insert host number })

def openSession (w : ConnectionWorld) (host : String) :
    Attempted (Option Handle) × ConnectionWorld :=
  let w := w.logged ("session:" ++ host)
  match (w.script.sessions.get? host).getD .opened with
  | .opened =>
    let (session, w) := w.freshSession host
    (.done (some session), w)
  | .unknownMachine => (.done none, w)
  | .failed e => (.failed e, w)

/-- What a client sees: its own daemon, and the common store and clock. -/
def worldOf? (w : ConnectionWorld) (client : Handle) : Option (UpdateWorld AnyStore) :=
  (w.clients.get? client).map fun world => { world with store := w.store, clock := w.clock }

/-- The world after something was done through a client. -/
def keep (w : ConnectionWorld) (client : Handle) (world : UpdateWorld AnyStore) :
    ConnectionWorld :=
  { w with
    clients := w.clients.insert client world
    store := world.store
    clock := world.clock }

def connected (w : ConnectionWorld) (client : Handle) (reachable : Bool) : ConnectionWorld :=
  let world := (w.script.worlds.get? client.host).getD w.script.blank
  { w with clients := w.clients.insert client { world with reachable := reachable } }

def dial (w : ConnectionWorld) (host : String) (session : Option Handle) :
    Dialed × ConnectionWorld :=
  let outcome := w.nextDial host
  let number := (w.dialed.get? host).getD 0 + 1
  let w := w.logged ("dial:" ++ host ++ if session.isSome then ":session" else ":local")
  let w := { w with dialed := w.dialed.insert host number }
  match outcome with
  | .healthy => (.connected ⟨host, number⟩, w.connected ⟨host, number⟩ true)
  | .unreachable => (.connected ⟨host, number⟩, w.connected ⟨host, number⟩ false)
  | .failed => (.failed (.client host "scripted dial failure"), w)
  | .timedOut => (.failed (.timeout host), w)
  | .brokenDown => (.brokenDown, w)

def probe (w : ConnectionWorld) (client : Handle) : Probed × ConnectionWorld :=
  let w := w.logged ("info:" ++ handleText client)
  match w.worldOf? client with
  | none => (.failed UpdateWorld.refused, w)
  | some world =>
    let (reply, world) := world.callDaemon .info
    (.ofReply reply, w.keep client world)

def handle (q : ConnectionRequest) (w : ConnectionWorld) : q.Reply × ConnectionWorld :=
  match q with
  | .openSession host => w.openSession host
  | .dial host session => w.dial host session
  | .probe client => w.probe client
  | .closeClient client => ((), w.logged ("close:" ++ handleText client))
  | .closeSession session => ((), w.logged ("close_session:" ++ handleText session))
  | .now => (w.clock, w)

end ConnectionWorld

end ContainerFleet
