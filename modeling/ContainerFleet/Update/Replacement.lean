import ContainerFleet.Update.Health

/-!
Replaces one container by an equal one that runs another image. A container that was running is
removed only after its replacement was found healthy; until then the replacement has a name of its
own, and when it fails it is removed and the old container started again. A container that was not
running is removed and created anew.
-/

namespace ContainerFleet

/-- A step that failed where nothing has to be undone. -/
inductive ReplaceStep where
  | inspect
  | stop
  | remove
  | create
  | rename
deriving DecidableEq, Repr

namespace ReplaceStep

def verb : ReplaceStep → String
  | .inspect => "inspecting"
  | .stop => "stopping"
  | .remove => "removing"
  | .create => "creating"
  | .rename => "renaming"

end ReplaceStep

/-- Why the replacement of a running container was given up. -/
inductive ReplaceFailure where
  | create (e : DaemonError)
  | start (e : DaemonError)
  | health (e : HealthError)
deriving DecidableEq, Repr

namespace ReplaceFailure

def message : ReplaceFailure → String
  | .create e => "creating replacement failed: " ++ e.message
  | .start e => "starting replacement failed: " ++ e.message
  | .health e => "replacement is unhealthy: " ++ e.message

end ReplaceFailure

inductive ReplaceError where
  | step (step : ReplaceStep) (container : String) (e : DaemonError)
  /-- The replacement failed and the old container was started again. -/
  | rolledBack (container : String) (cause : ReplaceFailure)
  /-- The replacement failed and the old container could not be started again. -/
  | rollbackFailed (container : String) (cause : ReplaceFailure) (e : DaemonError)
deriving DecidableEq, Repr

namespace ReplaceError

def message : ReplaceError → String
  | .step failed container e =>
    failed.verb ++ " container " ++ container ++ " failed: " ++ e.message
  | .rolledBack container cause =>
    "updating " ++ container ++ " failed and was rolled back: " ++ cause.message
  | .rollbackFailed container cause e =>
    "updating " ++ container ++ " failed (" ++ cause.message ++
      ") and restarting the original failed: " ++ e.message

end ReplaceError

/-- A container that was replaced. -/
structure Replaced where
  oldId : String
  newId : String
  /-- Whether the replacement had to pass the health check. -/
  healthChecked : Bool
deriving DecidableEq, Repr

namespace Replacement

/-- What a replacement's name ends in until it takes over. -/
def nameSuffix : String := "-dockman-update"

/-- The name of a replacement until it takes over. -/
def temporaryName (name : String) : String :=
  name ++ nameSuffix

/-- Removes a container that is not running and creates it anew. -/
def replaceStopped (old : ContainerDetails) (image : String) :
    UpdateProgram (Except ReplaceError Replaced) := do
  match ← UpdateProgram.remove old.id with
  | .error e => return .error (.step .remove old.name e)
  | .ok () =>
    match ← UpdateProgram.create old.name (old.spec.withImage image) with
    | .error e => return .error (.step .create old.name e)
    | .ok newId => return .ok ⟨old.id, newId, false⟩

/-- How far a replacement got. -/
inductive Attempt where
  | healthy (newId : String)
  /-- It failed, after it was created or before. -/
  | failed (newId : Option String) (cause : ReplaceFailure)
deriving DecidableEq, Repr

/-- Creates, starts and checks the replacement of a container that was stopped. -/
def attempt (old : ContainerDetails) (image : String) : UpdateProgram Attempt := do
  match ← UpdateProgram.create (temporaryName old.name) (old.spec.withImage image) with
  | .error e => return .failed none (.create e)
  | .ok newId =>
    match ← UpdateProgram.start newId with
    | .error e => return .failed (some newId) (.start e)
    | .ok () =>
      match ← Health.check newId (LabelSet.ofRaw old.labels) with
      | .error e => return .failed (some newId) (.health e)
      | .ok () => return .healthy newId

/-- Removes what was created, whether that succeeds or not, and starts the old container again. -/
def rollBack (old : ContainerDetails) (newId : Option String) (cause : ReplaceFailure) :
    UpdateProgram ReplaceError := do
  match newId with
  | some newId =>
    let _ ← UpdateProgram.remove newId
  | none => pure ()
  match ← UpdateProgram.start old.id with
  | .ok () => return .rolledBack old.name cause
  | .error e => return .rollbackFailed old.name cause e

/-- Puts a healthy replacement in the place of the old one. -/
def takeOver (old : ContainerDetails) (newId : String) :
    UpdateProgram (Except ReplaceError Replaced) := do
  match ← UpdateProgram.remove old.id with
  | .error e => return .error (.step .remove old.name e)
  | .ok () =>
    match ← UpdateProgram.rename newId old.name with
    | .error e => return .error (.step .rename old.name e)
    | .ok () => return .ok ⟨old.id, newId, true⟩

/-- Replaces a container that has just been stopped. -/
def replaceRunning (old : ContainerDetails) (image : String) :
    UpdateProgram (Except ReplaceError Replaced) := do
  match ← attempt old image with
  | .healthy newId => takeOver old newId
  | .failed newId cause => return .error (← rollBack old newId cause)

/-- Replaces a container by one that runs this image and is equal otherwise. -/
def replace (stopTimeout : Duration) (id image : String) :
    UpdateProgram (Except ReplaceError Replaced) := do
  match ← UpdateProgram.inspect id with
  | .error e => return .error (.step .inspect id e)
  | .ok old =>
    if old.running then
      match ← UpdateProgram.stop old.id stopTimeout with
      | .error e => return .error (.step .stop old.name e)
      | .ok () => replaceRunning old image
    else replaceStopped old image

end Replacement

end ContainerFleet
