import ContainerFleet.Config.Basic
import ContainerFleet.Host.Kind
import ContainerFleet.Update.Replacement
import ContainerFleet.Update.Report
import ContainerFleet.Update.Sidecar
import ContainerFleet.Update.Staleness

/-!
One update run on one host. The containers are gone through one after another; what fails stays
with its container. Then unused images are pruned, and last the program's own container, if it had
to wait, is handed to the helper.
-/

namespace ContainerFleet

/-- What all update runs have in common. -/
structure Updater where
  sidecarUrl : String
  /-- The id that the helper is given in place of the one that was listed. -/
  selfContainerId : Option String
  stopTimeout : Duration
deriving DecidableEq, Repr

namespace Updater

def ofConfig (c : UpdaterConfig) : Updater where
  sidecarUrl := c.sidecarUrl
  selfContainerId := c.selfContainerId
  stopTimeout := c.stopTimeout

end Updater

/-- The host that a run is for. -/
structure RunHost where
  name : String
  kind : HostKind
deriving DecidableEq, Repr

namespace RunHost

def isLocal (h : RunHost) : Bool :=
  h.kind == .local

end RunHost

namespace UpdateRun

/-- Remembers that the registry has a newer image. -/
def record (host imageId updateRef : String) : UpdateProgram (Except StoreError Unit) := do
  let now ← UpdateProgram.now
  UpdateProgram.store (.save ⟨host, imageId, updateRef, Timestamp.ofSinceEpoch now⟩)

/-- The image under which a newer one is remembered: the one that the container runs, or the local
one when that is not known. -/
def recordedImage (c : ContainerRecord) (check : DigestCheck) : String :=
  if c.imageId = "" then check.localId else c.imageId

/-- Remembers a newer image for a container. -/
def notify (host : RunHost) (c : ContainerRecord) (check : DigestCheck) : UpdateProgram Outcome := do
  match ← record host.name (recordedImage c check) check.remoteDigest with
  | .ok () => return .notified check.remoteDigest
  | .error e => return .failed e.message

/-- Replaces a container by one that runs its image as it is now. -/
def replace (u : Updater) (c : ContainerRecord) : UpdateProgram Outcome := do
  match ← Replacement.replace u.stopTimeout c.id c.image with
  | .ok done => return .updated done.newId
  | .error (.rolledBack container cause) =>
    return .rolledBack (ReplaceError.rolledBack container cause).message
  | .error e => return .failed e.message

/-- Pulls the newer image and replaces the container. -/
def pullAndReplace (u : Updater) (c : ContainerRecord) : UpdateProgram Outcome := do
  match ← UpdateProgram.pull c.image with
  | none => return .failed "cancelled during pull"
  | some (.error e) => return .failed ("pulling " ++ c.image ++ " failed: " ++ e.message)
  | some (.ok ()) => replace u c

/-- Brings one container up to date. A container may run an older image although the host has the
newest one: then another container brought it. -/
def process (u : Updater) (host : RunHost) (policy : UpdatePolicy) (c : ContainerRecord) :
    UpdateProgram Outcome := do
  match ← DigestCheck.ofReference c.image with
  | .error e => return .failed e.message
  | .ok check =>
    if !check.updateAvailable && !check.isSuperseded c.imageId then return .upToDate
    else if policy.notifyOnly then notify host c check
    else if check.updateAvailable then pullAndReplace u c
    else replace u c

/-- What came of one container: its entry in the report, and the container itself when it has to
wait until the others are done. -/
structure Step where
  report : ContainerReport
  deferred : Option ContainerRecord
deriving DecidableEq, Repr

namespace Step

def ofOutcome (c : ContainerRecord) (outcome : Outcome) : Step :=
  ⟨⟨c.id, c.name, c.image, outcome⟩, none⟩

def ofDeferred (c : ContainerRecord) : Step :=
  ⟨⟨c.id, c.name, c.image, .deferredSelf⟩, some c⟩

end Step

/-- Does to one container what its labels and the policy say. -/
def step (u : Updater) (host : RunHost) (policy : UpdatePolicy) (listed : ContainerRecord) :
    UpdateProgram Step := do
  match ← listed.resolveReference with
  | .error e =>
    return .ofOutcome listed (.failed ("resolving image reference failed: " ++ e.message))
  | .ok c =>
    match c.classify policy host.isLocal with
    | .skip reason => return .ofOutcome c (.skipped reason)
    | .deferSelf => return .ofDeferred c
    | .eligible => return .ofOutcome c (← process u host policy c)

/-- What came of the containers: their entries in the report, the last one that has to wait, and
whether the run was cancelled before all were seen. -/
structure Walk where
  reports : List ContainerReport
  deferred : Option ContainerRecord
  cancelled : Bool
deriving DecidableEq, Repr

/-- Goes through the containers until the run is cancelled. -/
def walk (u : Updater) (host : RunHost) (policy : UpdatePolicy) :
    List ContainerRecord → Option ContainerRecord → UpdateProgram Walk
  | [], deferred => return ⟨[], deferred, false⟩
  | c :: cs, deferred => do
    if ← UpdateProgram.isCancelled then return ⟨[], deferred, true⟩
    else
      let done ← step u host policy c
      let rest ← walk u host policy cs (done.deferred.or deferred)
      return { rest with reports := done.report :: rest.reports }

/-- Removes unused images, and what is remembered about them. -/
def prune (host : RunHost) : UpdateProgram PruneSummary := do
  match ← UpdateProgram.daemon .prune with
  | .error e => return ⟨[], 0, some e.message⟩
  | .ok pruned =>
    if pruned.deleted.isEmpty then return ⟨[], pruned.spaceReclaimed, none⟩
    else
      match ← UpdateProgram.store (.delete host.name pruned.deleted) with
      | .ok () => return ⟨pruned.deleted, pruned.spaceReclaimed, none⟩
      | .error e => return ⟨pruned.deleted, pruned.spaceReclaimed, some e.message⟩

/-- Has the program's own container replaced by the helper when the registry has a newer image. -/
def selfUpdate (u : Updater) (host : RunHost) (policy : UpdatePolicy) (me : ContainerRecord) :
    UpdateProgram SelfUpdate := do
  match ← DigestCheck.ofReference me.image with
  | .error e => return .failed e.message
  | .ok check =>
    if !check.updateAvailable then return .upToDate
    else if policy.notifyOnly then
      match ← record host.name check.localId check.remoteDigest with
      | .ok () => return .notified
      | .error e => return .failed e.message
    else
      match ← Sidecar.trigger u.sidecarUrl (u.selfContainerId.getD me.id) with
      | .ok () => return .triggered
      | .error e => return .failed e.message

/-- What is done after the containers, unless the run was cancelled. -/
def finish (u : Updater) (host : RunHost) (policy : UpdatePolicy) (walked : Walk)
    (cancelled : Bool) : UpdateProgram UpdateReport :=
  if cancelled then
    return ⟨host.name, walked.reports, none,
      if walked.deferred.isSome then .cancelled else .notDeferred, true⟩
  else do
    let pruned ← prune host
    match walked.deferred with
    | none => return ⟨host.name, walked.reports, some pruned, .notDeferred, false⟩
    | some me =>
      let state ← selfUpdate u host policy me
      return ⟨host.name, walked.reports, some pruned, state, false⟩

/-- One update run over some containers of a host. -/
def run (u : Updater) (host : RunHost) (policy : UpdatePolicy) (containers : List ContainerRecord) :
    UpdateProgram UpdateReport := do
  let walked ← walk u host policy containers none
  let cancelled ← UpdateProgram.isCancelled
  finish u host policy walked (walked.cancelled || cancelled)

end UpdateRun

end ContainerFleet
