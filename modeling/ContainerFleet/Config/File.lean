import ContainerFleet.Config.Basic
import ContainerFleet.Error
import ContainerFleet.Files
import ContainerFleet.Toml.Reader
import ContainerFleet.Toml.Writer

/-!
Configurations as TOML files.
-/

namespace ContainerFleet

namespace MachineProfile

def toToml (m : MachineProfile) : Toml.Item :=
  .table ([("address", Toml.Item.str m.address), ("username", .str m.username),
    ("private_key_path", .str m.privateKeyPath)]
    ++ (m.hostKey.map fun key => ("host_key", Toml.Item.str key)).toList
    ++ [("enabled", .bool m.enabled)]
    ++ (m.notes.map fun notes => ("notes", Toml.Item.str notes)).toList)

end MachineProfile

namespace UpdaterConfig

def toToml (c : UpdaterConfig) : Toml.Item :=
  .table ([("sidecar_url", Toml.Item.str c.sidecarUrl)]
    ++ (c.selfContainerId.map fun id => ("self_container_id", Toml.Item.str id)).toList
    ++ [("stop_timeout", .str c.stopTimeout.toText), ("allow_self_update", .bool c.allowSelfUpdate),
      ("notify_only", .bool c.notifyOnly), ("opt_in_only", .bool c.optInOnly)])

end UpdaterConfig

namespace FleetConfig

/-- The entries of the configuration file, without the options that are absent. -/
def toToml (c : FleetConfig) : List (String × Toml.Item) :=
  [("local_host_name", Toml.Item.str c.localHostName)]
    ++ (c.localSocket.map fun path => ("local_socket", Toml.Item.str path)).toList
    ++ [("rpc_timeout", .str c.rpcTimeout.toText), ("remote_socket_path", .str c.remoteSocketPath),
      ("remote_tcp_port", .int c.remoteTcpPort.toNat),
      ("machines", .table (c.machines.map fun entry => (entry.1, entry.2.toToml))),
      ("updater", c.updater.toToml)]
    ++ (c.updateStorePath.map fun path => ("update_store_path", Toml.Item.str path)).toList

def toText (c : FleetConfig) : List Char :=
  Toml.write c.toToml

/-- Reads the text of a configuration file. -/
def ofText? (env : Environment) (s : List Char) : Option FleetConfig :=
  (Toml.parse? s).bind fun v => ofJson? Json.lenient env v.toJson

/-- Loads the configuration at a path. -/
def load (env : Environment) (path : String) : FileProgram (Except ConfigError FleetConfig) := do
  if ← FileProgram.isThere path then
    match ← FileProgram.read path with
    | .error e => return .error (.invalid ("Failed to read config: " ++ e.message))
    | .ok bytes =>
      match Files.textOf? bytes with
      | none => return .error (.invalid ("Failed to read config: " ++ FileError.notText.message))
      | some text =>
        match ofText? env text with
        | none => return .error .parse
        | some config => return .ok config
  else return .error (.notFound path)

/-- Makes the directory that holds a path. -/
def prepare (path : String) : FileProgram (Except FileError Unit) :=
  match FilePath.parent? path with
  | some dir => FileProgram.makeDirectories dir
  | none => return .ok ()

/-- Saves a configuration at a path, making the directories above it. -/
def save (path : String) (config : FleetConfig) : FileProgram (Except ConfigError Unit) := do
  match ← prepare path with
  | .error e => return .error (.invalid ("Failed to create config dir: " ++ e.message))
  | .ok () =>
    match ← FileProgram.write path (Files.bytesOf config.toText) with
    | .error e => return .error (.invalid ("Failed to write config: " ++ e.message))
    | .ok () => return .ok ()

end FleetConfig

end ContainerFleet
