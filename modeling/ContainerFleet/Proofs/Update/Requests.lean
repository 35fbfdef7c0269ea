import ContainerFleet.Proofs.Replacement.Image
import ContainerFleet.Proofs.Store.Effect
import ContainerFleet.Proofs.Update.SelfUpdate

/-!
What the visit to a container asks of the world. Main statement: `asksOnly_step`, that it asks
neither whether the run is cancelled nor the helper, does not prune, and keeps records of its own
host only.
-/

namespace ContainerFleet

/-- A request that deals with records of this host, if with any. -/
def UpdateRequest.About (name : String) : UpdateRequest → Prop
  | .store call => call.host = name
  | _ => True

/-- What the visit to a container on this host may ask. -/
def UpdateRequest.OnVisit (name : String) : UpdateRequest → Prop
  | .daemon call => call ≠ .prune
  | .pull _ => True
  | .store (.save u) => u.host = name
  | .store _ => False
  | .get _ timeout => timeout = Health.pingTimeout
  | .now => True
  | .sleepUntil _ => True
  | .isCancelled => False

namespace UpdateRequest

variable {name : String} {q : UpdateRequest}

theorem ChecksHealth.onVisit (h : q.ChecksHealth) : q.OnVisit name := by
  cases q with
  | daemon call => cases call <;> first | exact DaemonCall.noConfusion | cases h
  | get url timeout => exact h
  | now => trivial
  | sleepUntil moment => trivial
  | _ => cases h

theorem onVisit_of_isLookup (h : q.isLookup = true) : q.OnVisit name := by
  cases q with
  | daemon call => cases call <;> first | exact DaemonCall.noConfusion | cases h
  | _ => cases h

theorem OnVisit.about (h : q.OnVisit name) : q.About name := by
  cases q with
  | store call => cases call <;> first | exact h | cases h
  | _ => trivial

end UpdateRequest

/-- Exchanges that the visit to a container on this host may have. -/
def OnVisit (name : String) (trace : List UpdateExchange) : Prop :=
  ∀ x ∈ trace, UpdateRequest.OnVisit name x.request

section OnVisit

variable {name : String} {t u : List UpdateExchange}

@[simp]
theorem onVisit_nil : OnVisit name [] :=
  List.forall_mem_nil _

@[simp]
theorem onVisit_cons {x : UpdateExchange} :
    OnVisit name (x :: t) ↔ UpdateRequest.OnVisit name x.request ∧ OnVisit name t :=
  List.forall_mem_cons

@[simp]
theorem onVisit_said {call : DaemonCall} (r : call.Reply) :
    UpdateRequest.OnVisit name (said call r).request ↔ call ≠ .prune :=
  Iff.rfl

@[simp]
theorem onVisit_append : OnVisit name (t ++ u) ↔ OnVisit name t ∧ OnVisit name u :=
  List.forall_mem_append

theorem Lookups.onVisit (h : Lookups t) : OnVisit name t :=
  fun x hx => UpdateRequest.onVisit_of_isLookup (h x hx)

end OnVisit

namespace Replacement

open Program

variable {stopTimeout : Duration} {key image name : String} {old : ContainerDetails}
  {trace : List UpdateExchange} {result : Except ReplaceError Replaced}

theorem Restart.onVisit {cause : ReplaceFailure} {err : ReplaceError}
    (h : Restart old cause trace err) : OnVisit name trace := by
  cases h <;> simp

theorem Checked.onVisit {newId : String} {verdict : Except HealthError Unit}
    (h : Checked old newId trace verdict) : OnVisit name trace :=
  fun x hx => (Health.asksOnly_check _ _ _ _ h.runs x hx).onVisit

theorem Course.onVisit (h : Course stopTimeout image old trace result) : OnVisit name trace := by
  cases h with
  | notRemoved _ e => simp
  | notRecreated _ e => simp
  | recreated _ newId => simp
  | notStopped _ e => simp
  | notCreated _ e hlast => simp [hlast.onVisit]
  | notStarted _ newId e removed hlast => simp [hlast.onVisit]
  | unhealthy _ newId hcheck removed hlast => simp [hcheck.onVisit, hlast.onVisit]
  | oldNotRemoved _ newId hcheck e => simp [hcheck.onVisit]
  | notRenamed _ newId hcheck e => simp [hcheck.onVisit]
  | tookOver _ newId hcheck => simp [hcheck.onVisit]

theorem onVisit_of_runs (h : Runs (replace stopTimeout key image) trace result) :
    OnVisit name trace := by
  cases protocol_of_runs h with
  | notInspected e => simp
  | inspected old hcourse => simp [hcourse.onVisit]

end Replacement

namespace UpdateRun

open Program DigestCheck

variable {updater : Updater} {host : RunHost} {policy : UpdatePolicy} {c : ContainerRecord}
  {trace : List UpdateExchange}

theorem onVisit_recording (imageId updateRef : String) (now : Moment)
    (saved : Except StoreError Unit) :
    OnVisit host.name (recording host.name imageId updateRef now saved) := by
  simp [recording, UpdateRequest.OnVisit]

theorem onVisit_pulling {name : String} (image : String)
    (reply : Option (Except DaemonError Unit)) :
    UpdateRequest.OnVisit name (pulling image reply).request :=
  trivial

theorem Handles.onVisit {outcome : Outcome}
    (h : Handles updater host policy c trace outcome) : OnVisit host.name trace := by
  cases h with
  | notCompared h => exact (lookups_of_looksUp h).onVisit
  | upToDate h _ => exact (lookups_of_looksUp h).onVisit
  | recorded h _ _ now saved =>
      simp [(lookups_of_looksUp h).onVisit, onVisit_recording]
  | abandoned h _ _ => simp [(lookups_of_looksUp h).onVisit, onVisit_pulling]
  | notPulled h _ _ e => simp [(lookups_of_looksUp h).onVisit, onVisit_pulling]
  | pulled h _ _ hreplace =>
      simp [(lookups_of_looksUp h).onVisit, onVisit_pulling, Replacement.onVisit_of_runs hreplace]
  | superseded h _ _ _ hreplace =>
      simp [(lookups_of_looksUp h).onVisit, Replacement.onVisit_of_runs hreplace]

theorem Visited.onVisit {listed : ContainerRecord} {done : Step}
    (h : Visited updater host policy listed trace done) : OnVisit host.name trace := by
  cases h with
  | unresolved h => exact h.lookups.onVisit
  | skipped h _ => exact h.lookups.onVisit
  | deferred h _ => exact h.lookups.onVisit
  | processed h _ hprocess => simp [h.lookups.onVisit, (handles_of_runs hprocess).onVisit]

theorem asksOnly_step (updater : Updater) (host : RunHost) (policy : UpdatePolicy)
    (listed : ContainerRecord) :
    AsksOnly (I := updateInterface) (UpdateRequest.OnVisit host.name)
      (step updater host policy listed) :=
  fun _ _ h => (visited_of_runs h).onVisit

end UpdateRun

end ContainerFleet
