import ContainerFleet.Host.Registry
import ContainerFleet.Host.Service

/-!
The fleet as a whole: its configuration, its connected hosts, and what all its update runs share.
-/

namespace ContainerFleet

structure Fleet where
  config : FleetConfig
  registry : Registry
deriving DecidableEq, Repr

namespace Fleet

/-- The fleet of a configuration before any host is connected. -/
def ofConfig (config : FleetConfig) : Fleet :=
  ⟨config, Registry.empty config.localHostName⟩

def updater (f : Fleet) : Updater :=
  Updater.ofConfig f.config.updater

/-- Connects the local host and every machine that is enabled. -/
def bootstrap (turns : List Nat) (f : Fleet) :
    ConnectionProgram (Except RegistryError String × Fleet) := do
  let (result, registry) ← f.registry.bootstrap turns f.config.enabledMachines
  return (result, { f with registry := registry })

/-- What can be done on a connected host. -/
def serviceOf (f : Fleet) (h : Host) : HostService where
  host := ⟨h.name, h.kind⟩
  updater := f.updater
  stopTimeout := f.config.updater.stopTimeout

/-- The host with this name, with what can be done on it. -/
def service (f : Fleet) (name : String) : Except RegistryError (Host × HostService) := do
  let host ← f.registry.get name
  return (host, f.serviceOf host)

def defaultService (f : Fleet) : Except RegistryError (Host × HostService) :=
  match f.registry.default? with
  | none => .error .noReachableHosts
  | some name => f.service name

/-- Closes all hosts. -/
def shutdown (f : Fleet) : ConnectionProgram Fleet := do
  return { f with registry := ← f.registry.shutdown }

end Fleet

end ContainerFleet
