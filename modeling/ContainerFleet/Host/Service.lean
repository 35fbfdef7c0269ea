import ContainerFleet.Update.Run

/-!
What can be done on one host: simple operations on containers, and update runs. The ways to start a
run differ in how they choose the containers.
-/

namespace ContainerFleet

/-- Why no update run took place. -/
inductive UpdateError where
  | daemon (e : DaemonError)
  | store (e : StoreError)
  /-- No container is the one that was asked for. -/
  | noMatch (host selector : String)
deriving DecidableEq, Repr

namespace UpdateError

def message : UpdateError → String
  | .daemon e => "Daemon error: " ++ e.message
  | .store e => "Store error: " ++ e.message
  | .noMatch host selector => "No container on " ++ host ++ " matches " ++ selector

end UpdateError

structure HostService where
  host : RunHost
  updater : Updater
  /-- How long a container may take to stop when it is stopped by itself. -/
  stopTimeout : Duration
deriving DecidableEq, Repr

namespace HostService

def listContainers (_ : HostService) (all : Bool) :
    UpdateProgram (Except DaemonError (List ContainerRecord)) :=
  UpdateProgram.daemon (.list all)

def startContainer (_ : HostService) (id : String) : UpdateProgram (Except DaemonError Unit) :=
  UpdateProgram.start id

def stopContainer (s : HostService) (id : String) : UpdateProgram (Except DaemonError Unit) :=
  UpdateProgram.stop id s.stopTimeout

def removeContainer (_ : HostService) (id : String) : UpdateProgram (Except DaemonError Unit) :=
  UpdateProgram.remove id

/-- The detected updates of images that are on the host, by image. -/
def pendingUpdates (s : HostService) :
    UpdateProgram (Except UpdateError (Map String ImageUpdate)) := do
  match ← UpdateProgram.daemon .imageIds with
  | .error e => return .error (.daemon e)
  | .ok ids =>
    match ← UpdateProgram.store (.find s.host.name ids) with
    | .error e => return .error (.store e)
    | .ok found => return .ok found

def run (s : HostService) (policy : UpdatePolicy) (containers : List ContainerRecord) :
    UpdateProgram (Except UpdateError UpdateReport) := do
  return .ok (← UpdateRun.run s.updater s.host policy containers)

/-- A run over all containers. -/
def updateAll (s : HostService) (policy : UpdatePolicy) :
    UpdateProgram (Except UpdateError UpdateReport) := do
  match ← s.listContainers true with
  | .error e => return .error (.daemon e)
  | .ok containers => s.run policy containers

/-- Records newer images for all containers and changes none. -/
def checkUpdates (s : HostService) : UpdateProgram (Except UpdateError UpdateReport) :=
  s.updateAll { UpdatePolicy.plain with notifyOnly := true }

/-- The selectors that mean none of the containers. -/
def unmatched (selectors : List String) (containers : List ContainerRecord) : List String :=
  selectors.filter fun selector => !containers.any fun c => c.matchesSelector selector

/-- The containers that at least one selector means. -/
def selected (selectors : List String) (containers : List ContainerRecord) :
    List ContainerRecord :=
  containers.filter fun c => selectors.any c.matchesSelector

/-- A run over chosen containers, also those with updates switched off; each selector has to mean
one. -/
def updateById (s : HostService) (selectors : List String) (policy : UpdatePolicy) :
    UpdateProgram (Except UpdateError UpdateReport) := do
  match ← s.listContainers true with
  | .error e => return .error (.daemon e)
  | .ok containers =>
    if (unmatched selectors containers).isEmpty then
      s.run policy.forced (selected selectors containers)
    else
      return .error
        (.noMatch s.host.name (String.intercalate ", " (unmatched selectors containers)))

/-- The containers that were created from a reference, as far as their references can be found
out. -/
def withReference (reference : String) :
    List ContainerRecord → UpdateProgram (Except DaemonError (List ContainerRecord))
  | [] => return .ok []
  | c :: cs => do
    match ← c.resolveReference with
    | .error e => return .error e
    | .ok c =>
      match ← withReference reference cs with
      | .error e => return .error e
      | .ok rest => return .ok (if c.image = reference then c :: rest else rest)

/-- A run over the containers of one reference, also those with updates switched off. -/
def updateByImage (s : HostService) (reference : String) (policy : UpdatePolicy) :
    UpdateProgram (Except UpdateError UpdateReport) := do
  match ← s.listContainers true with
  | .error e => return .error (.daemon e)
  | .ok listed =>
    match ← withReference reference listed with
    | .error e => return .error (.daemon e)
    | .ok [] => return .error (.noMatch s.host.name ("image " ++ reference))
    | .ok containers => s.run policy.forced containers

/-- A run over this program's own container, which is replaced like any other. -/
def updateSelf (s : HostService) (id : String) :
    UpdateProgram (Except UpdateError UpdateReport) := do
  match ← s.listContainers true with
  | .error e => return .error (.daemon e)
  | .ok listed =>
    match listed.filter fun c => c.matchesSelector id with
    | [] => return .error (.noMatch s.host.name id)
    | containers =>
      s.run { UpdatePolicy.plain with allowSelfUpdate := true, forceUpdate := true } containers

end HostService

end ContainerFleet
