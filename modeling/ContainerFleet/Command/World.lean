import ContainerFleet.Command.Run
import ContainerFleet.Docker.Script
import ContainerFleet.Host.Session
import ContainerFleet.Store.Any
import ContainerFleet.Update.World

/-!
A world in memory in which the whole program can be carried out: files, a scripted Docker API that
listens on a socket of this machine, and machines none of which can be reached.
-/

namespace ContainerFleet

structure CommandWorld where
  disk : Disk
  /-- Where the Docker API listens. -/
  socket : String
  api : Docker.ApiScript
  config : FleetConfig
  /-- The records of a store that is kept in memory. -/
  records : MemoryStore
  network : String → HttpReply
  clock : Moment
  printed : List String

namespace CommandWorld

/-- The socket of the local daemon when the configuration names none. -/
def usualSocket : String := "/var/run/docker.sock"

def localSocket (w : CommandWorld) : String :=
  w.config.localSocket.getD usualSocket

def openSession (w : CommandWorld) (host : String) :
    Attempted (Option Handle) × CommandWorld :=
  let (found, disk) := (MachineProfile.forSession w.config.machines host).run Disk.handle w.disk
  let w := { w with disk := disk }
  match found with
  | .error e => (.failed e, w)
  | .ok none => (.done none, w)
  | .ok (some profile) => (.failed (profile.unreachable host), w)

def dial (w : CommandWorld) (host : String) : Dialed :=
  if w.localSocket = w.socket then .connected ⟨host, 1⟩
  else .failed (.client host ("Socket not found: " ++ w.localSocket))

def callDaemon (w : CommandWorld) (call : DaemonCall) : call.Reply × CommandWorld :=
  let (reply, api) := (Docker.perform call).run Docker.ApiScript.handle w.api
  (reply, { w with api := api })

def callStore (w : CommandWorld) (call : StoreCall) : call.Reply × CommandWorld :=
  match w.config.updateStorePath with
  | some path =>
    let (reply, disk) := ((FileStore.mk path).perform call).run Disk.handle w.disk
    (reply, { w with disk := disk })
  | none =>
    let (reply, records) := MemoryStore.handle call w.records
    (reply, { w with records := records })

def handleConnection (q : ConnectionRequest) (w : CommandWorld) : q.Reply × CommandWorld :=
  match q with
  | .openSession host => w.openSession host
  | .dial host _ => (w.dial host, w)
  | .probe _ =>
    let (reply, w) := w.callDaemon .info
    (.ofReply reply, w)
  | .closeClient _ => ((), w)
  | .closeSession _ => ((), w)
  | .now => (w.clock, w)

def handleUpdate (q : UpdateRequest) (w : CommandWorld) : q.Reply × CommandWorld :=
  match q with
  | .daemon call => w.callDaemon call
  | .pull image =>
    let (reply, w) := w.callDaemon (.pull image)
    (some reply, w)
  | .store call => w.callStore call
  | .get url _ => (w.network url, w)
  | .now => (w.clock, w)
  | .sleepUntil moment => ((), { w with clock := max w.clock moment })
  | .isCancelled => (false, w)

def handle (q : CommandRequest) (w : CommandWorld) : q.Reply × CommandWorld :=
  match q with
  | .file q =>
    let (reply, disk) := Disk.handle q w.disk
    (reply, { w with disk := disk })
  | .configure config => ((), { w with config := config })
  | .connection q => handleConnection q w
  | .onHost _ q => handleUpdate q w
  | .print text => ((), { w with printed := w.printed ++ [text] })

end CommandWorld

end ContainerFleet
