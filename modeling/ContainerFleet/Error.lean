import ContainerFleet.Text.Printable

/-!
What can go wrong with a configuration, on the way to a daemon, with the registry of hosts and with
the store of updates.
-/

namespace ContainerFleet

open ContainerFleet.Text

/-- Why one host could not be reached. -/
inductive ConnectionError where
  | ssh (host reason : String)
  | authenticationFailed (host : String)
  /-- A channel through an SSH session could not be opened. -/
  | tunnel (reason : String)
  /-- Neither the socket nor the port of the daemon could be reached. -/
  | dial (host socketPath socketError tcpAddress tcpError : String)
  | client (host reason : String)
  /-- The daemon did not answer. -/
  | unavailable (host reason : String)
  | timeout (host : String)
deriving DecidableEq, Repr

namespace ConnectionError

def message : ConnectionError → String
  | .ssh host reason => s!"SSH connection to {host} failed: {reason}"
  | .authenticationFailed host => s!"Authentication rejected by {host}"
  | .tunnel reason => s!"Tunnel error: {reason}"
  | .dial host socketPath socketError tcpAddress tcpError =>
    s!"Could not reach daemon on {host}: unix socket {socketPath} ({socketError}); " ++
      s!"tcp fallback {tcpAddress} ({tcpError})"
  | .client host reason => s!"Daemon client for {host} could not be created: {reason}"
  | .unavailable host reason => s!"Daemon on {host} is unavailable: {reason}"
  | .timeout host => s!"Timed out connecting to {host}"

end ConnectionError

inductive RegistryError where
  | noReachableHosts
  | hostNotFound (name : String)
  | connection (e : ConnectionError)
deriving DecidableEq, Repr

namespace RegistryError

def message : RegistryError → String
  | .noReachableHosts => "No reachable Docker daemon: every configured host failed to connect"
  | .hostNotFound name =>
    s!"Host {quoted name} is not registered (this should never happen, please report it)"
  | .connection e => e.message

end RegistryError

inductive StoreError where
  /-- The file of the store could not be read or written. -/
  | file (reason : String)
  /-- The file of the store holds no list of records; the text says where it fails. -/
  | malformed (reason : String)
deriving DecidableEq, Repr

namespace StoreError

def message : StoreError → String
  | .file reason => s!"Store I/O error: {reason}"
  | .malformed reason => s!"Store serialization error: {reason}"

end StoreError

inductive ConfigError where
  | notFound (path : String)
  | invalid (reason : String)
  /-- The file is no TOML document, or not one of a configuration. -/
  | parse
  | missingField (name : String)
deriving DecidableEq, Repr

namespace ConfigError

def message : ConfigError → String
  | .notFound path => "Config file not found: " ++ path
  | .invalid reason => "Invalid config: " ++ reason
  | .parse => "TOML parse error"
  | .missingField name => "Missing required field: " ++ name

end ConfigError

/-- Any error of the fleet. -/
inductive FleetError where
  | connection (e : ConnectionError)
  | registry (e : RegistryError)
  | store (e : StoreError)
  | config (e : ConfigError)
  | file (reason : String)
deriving DecidableEq, Repr

namespace FleetError

def message : FleetError → String
  | .connection e => "Connection error: " ++ e.message
  | .registry e => "Registry error: " ++ e.message
  | .store e => "Store error: " ++ e.message
  | .config e => "Configuration error: " ++ e.message
  | .file reason => "I/O error: " ++ reason

end FleetError

end ContainerFleet
