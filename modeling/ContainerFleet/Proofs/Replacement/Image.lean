import ContainerFleet.Proofs.Replacement.Protocol
import ContainerFleet.Proofs.Update.Visits

/-!
Which images the replacement of a container has to do with. Main statement: `keepsTo_of_runs`, that
it pulls none, and creates containers from the one that it was given.
-/

namespace ContainerFleet

/-- A request that pulls nothing and creates containers from one image only. -/
def UpdateRequest.KeepsTo (image : String) : UpdateRequest → Prop
  | .pull _ => False
  | .daemon (.pull _) => False
  | .daemon (.create _ spec) => spec.image? = some image
  | _ => True

theorem UpdateRequest.keepsTo_of_looks {q : UpdateRequest} (image : String)
    (h : q.changesContainers = false) : q.KeepsTo image := by
  cases q with
  | daemon call => cases call <;> first | exact trivial | cases h
  | pull image => cases h
  | _ => exact trivial

theorem UpdateRequest.ChecksHealth.looks {q : UpdateRequest} (h : q.ChecksHealth) :
    q.changesContainers = false := by
  cases q with
  | daemon call => cases call <;> first | rfl | cases h
  | pull image => cases h
  | _ => rfl

namespace Replacement

open Program

variable {stopTimeout : Duration} {key image : String} {old : ContainerDetails}
  {trace : List UpdateExchange} {result : Except ReplaceError Replaced}

theorem keepsTo_of_restart {cause : ReplaceFailure} {err : ReplaceError} (image : String)
    (h : Restart old cause trace err) : ∀ x ∈ trace, UpdateRequest.KeepsTo image x.request := by
  cases h <;> simp [said, UpdateRequest.KeepsTo]

theorem keepsTo_of_checked {newId : String} {verdict : Except HealthError Unit} (image : String)
    (h : Checked old newId trace verdict) :
    ∀ x ∈ trace, UpdateRequest.KeepsTo image x.request := fun x hx =>
  UpdateRequest.keepsTo_of_looks image (Health.asksOnly_check _ _ _ _ h.runs x hx).looks

/-- A replacement pulls nothing, and creates containers from the image that it was given. -/
theorem keepsTo_of_course (h : Course stopTimeout image old trace result) :
    ∀ x ∈ trace, UpdateRequest.KeepsTo image x.request := by
  have hspec := old.spec.image?_withImage image
  cases h with
  | notRemoved _ e => simp [said, UpdateRequest.KeepsTo]
  | notRecreated _ e => simp [said, UpdateRequest.KeepsTo, hspec]
  | recreated _ newId => simp [said, UpdateRequest.KeepsTo, hspec]
  | notStopped _ e => simp [said, UpdateRequest.KeepsTo]
  | notCreated _ e hlast =>
      have hlast := keepsTo_of_restart image hlast
      simpa [said, UpdateRequest.KeepsTo, hspec, or_imp, forall_and] using hlast
  | notStarted _ newId e removed hlast =>
      have hlast := keepsTo_of_restart image hlast
      simpa [said, UpdateRequest.KeepsTo, hspec, or_imp, forall_and] using hlast
  | unhealthy _ newId hcheck removed hlast =>
      have hcheck := keepsTo_of_checked image hcheck
      have hlast := keepsTo_of_restart image hlast
      simpa [said, UpdateRequest.KeepsTo, hspec, or_imp, forall_and] using ⟨hcheck, hlast⟩
  | oldNotRemoved _ newId hcheck e =>
      have hcheck := keepsTo_of_checked image hcheck
      simpa [said, UpdateRequest.KeepsTo, hspec, or_imp, forall_and] using hcheck
  | notRenamed _ newId hcheck e =>
      have hcheck := keepsTo_of_checked image hcheck
      simpa [said, UpdateRequest.KeepsTo, hspec, or_imp, forall_and] using hcheck
  | tookOver _ newId hcheck =>
      have hcheck := keepsTo_of_checked image hcheck
      simpa [said, UpdateRequest.KeepsTo, hspec, or_imp, forall_and] using hcheck

theorem keepsTo_of_runs (h : Runs (replace stopTimeout key image) trace result) :
    ∀ x ∈ trace, UpdateRequest.KeepsTo image x.request := by
  cases protocol_of_runs h with
  | notInspected e => simp [said, UpdateRequest.KeepsTo]
  | inspected old hcourse => exact List.forall_mem_cons.2 ⟨trivial, keepsTo_of_course hcourse⟩

end Replacement

end ContainerFleet
