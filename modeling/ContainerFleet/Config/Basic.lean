import ContainerFleet.Config.Machine
import ContainerFleet.Policy

/-!
The configuration of the fleet and of its updates. Every field has a default.
-/

namespace ContainerFleet

/-- How containers are updated. -/
structure UpdaterConfig where
  /-- Where the helper listens that replaces this program's own container. -/
  sidecarUrl : String
  /-- The id of this program's own container, when it is known beforehand. -/
  selfContainerId : Option String
  /-- How long a container may take to stop before it is killed. -/
  stopTimeout : Duration
  allowSelfUpdate : Bool
  notifyOnly : Bool
  optInOnly : Bool
deriving DecidableEq, Repr

namespace UpdaterConfig

def default : UpdaterConfig where
  sidecarUrl := "http://dockman-updater:8869"
  selfContainerId := none
  stopTimeout := .short 10
  allowSelfUpdate := false
  notifyOnly := false
  optInOnly := false

/-- The choices of runs that nobody watches. -/
def policy (c : UpdaterConfig) : UpdatePolicy where
  allowSelfUpdate := c.allowSelfUpdate
  forceUpdate := false
  notifyOnly := c.notifyOnly
  optInOnly := c.optInOnly

def fieldNames : List String :=
  ["sidecar_url", "self_container_id", "stop_timeout", "allow_self_update", "notify_only",
    "opt_in_only"]

def ofJson? (how : Json.Strictness) (v : Json) : Option UpdaterConfig := do
  let r ← v.record? how fieldNames
  return {
    sidecarUrl := ← r.defaulted? "sidecar_url" default.sidecarUrl Json.str?
    selfContainerId := ← r.defaulted? "self_container_id" none (Json.nullable? Json.str?)
    stopTimeout := ← r.defaulted? "stop_timeout" default.stopTimeout Json.duration?
    allowSelfUpdate := ← r.defaulted? "allow_self_update" false Json.bool?
    notifyOnly := ← r.defaulted? "notify_only" false Json.bool?
    optInOnly := ← r.defaulted? "opt_in_only" false Json.bool?
  }

def toJson (c : UpdaterConfig) : Json :=
  .obj [("sidecar_url", .str c.sidecarUrl),
    ("self_container_id", .ofOption .str c.selfContainerId),
    ("stop_timeout", .str c.stopTimeout.toText), ("allow_self_update", .bool c.allowSelfUpdate),
    ("notify_only", .bool c.notifyOnly), ("opt_in_only", .bool c.optInOnly)]

end UpdaterConfig

structure FleetConfig where
  /-- The name under which the local daemon is known. -/
  localHostName : String
  /-- The socket of the local daemon; the usual one when there is none. -/
  localSocket : Option String
  /-- How long connecting and each call to a daemon may take. -/
  rpcTimeout : Duration
  /-- The socket tried first on remote hosts. -/
  remoteSocketPath : String
  /-- The port tried on remote hosts when the socket cannot be reached. -/
  remoteTcpPort : UInt16
  machines : Map String MachineProfile
  updater : UpdaterConfig
  /-- The file that detected updates are kept in; in memory when there is none. -/
  updateStorePath : Option String
deriving DecidableEq, Repr

namespace FleetConfig

def default : FleetConfig where
  localHostName := "local"
  localSocket := none
  rpcTimeout := .short 120
  remoteSocketPath := "/var/run/docker.sock"
  remoteTcpPort := 2375
  machines := []
  updater := UpdaterConfig.default
  updateStorePath := none

/-- The names in their order by code points. -/
def sortNames (names : List String) : List String :=
  names.mergeSort fun a b => decide (a ≤ b)

/-- The machines to connect to at the start, in the order of their names. -/
def enabledMachines (c : FleetConfig) : List String :=
  sortNames ((c.machines.filter fun entry => entry.2.enabled).map Prod.fst)

def fieldNames : List String :=
  ["local_host_name", "local_socket", "rpc_timeout", "remote_socket_path", "remote_tcp_port",
    "machines", "updater", "update_store_path"]

def ofJson? (how : Json.Strictness) (env : Environment) (v : Json) : Option FleetConfig := do
  let r ← v.record? how fieldNames
  return {
    localHostName := ← r.defaulted? "local_host_name" default.localHostName Json.str?
    localSocket := ← r.defaulted? "local_socket" none (Json.nullable? Json.str?)
    rpcTimeout := ← r.defaulted? "rpc_timeout" default.rpcTimeout Json.duration?
    remoteSocketPath := ← r.defaulted? "remote_socket_path" default.remoteSocketPath Json.str?
    remoteTcpPort := ← r.defaulted? "remote_tcp_port" default.remoteTcpPort Json.port?
    machines := ← r.defaulted? "machines" [] (Json.map? (MachineProfile.ofJson? how env))
    updater := ← r.defaulted? "updater" UpdaterConfig.default (UpdaterConfig.ofJson? how)
    updateStorePath := ← r.defaulted? "update_store_path" none (Json.nullable? Json.str?)
  }

def toJson (c : FleetConfig) : Json :=
  .obj [("local_host_name", .str c.localHostName), ("local_socket", .ofOption .str c.localSocket),
    ("rpc_timeout", .str c.rpcTimeout.toText), ("remote_socket_path", .str c.remoteSocketPath),
    ("remote_tcp_port", .ofNat c.remoteTcpPort.toNat),
    ("machines", .obj (c.machines.map fun entry => (entry.1, entry.2.toJson))),
    ("updater", c.updater.toJson), ("update_store_path", .ofOption .str c.updateStorePath)]

end FleetConfig

end ContainerFleet
