import ContainerFleet.Proofs.Update.Lookup
import ContainerFleet.Proofs.Update.Truth
import ContainerFleet.Proofs.Update.Visits

/-!
What is done to a container that an update run considers, whatever the world replies. Main
statement: `handles_of_runs`, that there are seven ways for it.
-/

namespace ContainerFleet

/-- Whether a request only asks the daemon what it knows about a container or an image. -/
def UpdateRequest.isLookup : UpdateRequest → Bool
  | .daemon (.inspect _) => true
  | .daemon (.image _) => true
  | .daemon (.registryDigest _) => true
  | _ => false

/-- Exchanges in which nothing else is asked. -/
def Lookups (trace : List UpdateExchange) : Prop :=
  ∀ x ∈ trace, UpdateRequest.isLookup x.request = true

theorem UpdateRequest.of_isLookup {q : UpdateRequest} (h : q.isLookup = true) :
    ∃ call, q = .daemon call ∧ call.changesContainers = false := by
  cases q with
  | daemon call => cases call <;> first | exact ⟨_, rfl, rfl⟩ | cases h
  | _ => cases h

theorem Lookups.looks {t : List UpdateExchange} (h : Lookups t) :
    ∀ x ∈ t, UpdateRequest.changesContainers x.request = false := by
  intro x hx
  obtain ⟨call, heq, hcall⟩ := UpdateRequest.of_isLookup (h x hx)
  rw [heq]
  exact hcall

theorem Lookups.append {t u : List UpdateExchange} (ht : Lookups t) (hu : Lookups u) :
    Lookups (t ++ u) :=
  List.forall_mem_append.2 ⟨ht, hu⟩

/-- A request to pull an image, with what came of it. -/
def pulling (image : String) (reply : Option (Except DaemonError Unit)) : UpdateExchange :=
  ⟨UpdateRequest.pull image, reply⟩

namespace UpdateRun

open Program DigestCheck

variable {updater : Updater} {host : RunHost} {policy : UpdatePolicy} {c : ContainerRecord}
  {trace : List UpdateExchange} {outcome : Outcome}

theorem Resolves.lookups {listed : ContainerRecord} {reply : Except DaemonError ContainerRecord}
    (h : Resolves listed trace reply) : Lookups trace := by
  cases h <;> simp [Lookups, said, UpdateRequest.isLookup]

theorem lookups_of_looksUp {reference : String} {reply : Except DigestError DigestCheck}
    (h : LooksUp reference trace reply) : Lookups trace := by
  cases h <;> simp [Lookups, said, UpdateRequest.isLookup]

theorem looks_recording (name imageId updateRef : String) (now : Moment)
    (saved : Except StoreError Unit) :
    ∀ x ∈ recording name imageId updateRef now saved,
      UpdateRequest.changesContainers x.request = false := by
  simp [recording, UpdateRequest.changesContainers]

/-- What is said of a container whose image could not be pulled. -/
def notPulled (image : String) (e : DaemonError) : Outcome :=
  .failed ("pulling " ++ image ++ " failed: " ++ e.message)

/-- The exchanges about a container and its outcome. Its image is looked up; then the container is
left alone, or a newer image remembered, or the container replaced, after its image was pulled if
the registry has a newer one. -/
inductive Handles (updater : Updater) (host : RunHost) (policy : UpdatePolicy)
    (c : ContainerRecord) : List UpdateExchange → Outcome → Prop where
  | notCompared {t : List UpdateExchange} {e : DigestError} (h : LooksUp c.image t (.error e)) :
      Handles updater host policy c t (.failed e.message)
  | upToDate {t : List UpdateExchange} {check : DigestCheck} (h : LooksUp c.image t (.ok check))
      (hcurrent : (check.updateAvailable || check.isSuperseded c.imageId) = false) :
      Handles updater host policy c t .upToDate
  | recorded {t : List UpdateExchange} {check : DigestCheck} (h : LooksUp c.image t (.ok check))
      (hstale : (check.updateAvailable || check.isSuperseded c.imageId) = true)
      (hnotify : policy.notifyOnly = true) (now : Moment) (saved : Except StoreError Unit) :
      Handles updater host policy c
        (t ++ recording host.name (recordedImage c check) check.remoteDigest now saved)
        (outcomeOfSaved check.remoteDigest saved)
  | abandoned {t : List UpdateExchange} {check : DigestCheck} (h : LooksUp c.image t (.ok check))
      (havailable : check.updateAvailable = true) (hchange : policy.notifyOnly = false) :
      Handles updater host policy c (t ++ [pulling c.image none])
        (.failed "cancelled during pull")
  | notPulled {t : List UpdateExchange} {check : DigestCheck} (h : LooksUp c.image t (.ok check))
      (havailable : check.updateAvailable = true) (hchange : policy.notifyOnly = false)
      (e : DaemonError) :
      Handles updater host policy c (t ++ [pulling c.image (some (.error e))])
        (notPulled c.image e)
  | pulled {t u : List UpdateExchange} {check : DigestCheck} {result : Except ReplaceError Replaced}
      (h : LooksUp c.image t (.ok check)) (havailable : check.updateAvailable = true)
      (hchange : policy.notifyOnly = false)
      (hreplace : Runs (Replacement.replace updater.stopTimeout c.id c.image) u result) :
      Handles updater host policy c (t ++ pulling c.image (some (.ok ())) :: u)
        (Replacement.outcomeOf result)
  | superseded {t u : List UpdateExchange} {check : DigestCheck}
      {result : Except ReplaceError Replaced} (h : LooksUp c.image t (.ok check))
      (hcurrent : check.updateAvailable = false) (hother : check.isSuperseded c.imageId = true)
      (hchange : policy.notifyOnly = false)
      (hreplace : Runs (Replacement.replace updater.stopTimeout c.id c.image) u result) :
      Handles updater host policy c (t ++ u) (Replacement.outcomeOf result)

theorem acted_outcomeOf (result : Except ReplaceError Replaced) :
    Acted (Replacement.outcomeOf result) := by
  rcases result with e | done
  · cases e <;> exact trivial
  · exact trivial

theorem exists_runs_of_replace (h : Runs (replace updater c) trace outcome) :
    ∃ result, Runs (Replacement.replace updater.stopTimeout c.id c.image) trace result ∧
      outcome = Replacement.outcomeOf result := by
  obtain ⟨t, u, result, rfl, hrun, h⟩ := runs_bind_iff.1 h
  have hend : u = [] ∧ outcome = Replacement.outcomeOf result := by
    rcases result with e | done
    · cases e <;> exact runs_pure_iff.1 h
    · exact runs_pure_iff.1 h
  rw [hend.1, List.append_nil]
  exact ⟨result, hrun, hend.2⟩

theorem handles_of_runs (hrun : Runs (process updater host policy c) trace outcome) :
    Handles updater host policy c trace outcome := by
  obtain ⟨t, u, reply, rfl, hcheck, h⟩ := runs_bind_iff.1 hrun
  have hlooks := looksUp_of_runs hcheck
  cases reply with
  | error e =>
      obtain ⟨rfl, rfl⟩ := runs_pure_iff.1 h
      rw [List.append_nil]
      exact .notCompared hlooks
  | ok check =>
      dsimp only at h
      split at h
      · next hcurrent =>
          obtain ⟨rfl, rfl⟩ := runs_pure_iff.1 h
          rw [List.append_nil]
          exact .upToDate hlooks (by simpa using hcurrent)
      · next hstale =>
          rw [← Bool.not_or, Bool.not_eq_true, Bool.not_eq_false'] at hstale
          split at h
          · next hnotify =>
              obtain ⟨now, saved, rfl, rfl⟩ := exists_recording_of_runs_notify h
              exact .recorded hlooks hstale hnotify now saved
          · next hchange =>
              rw [Bool.not_eq_true] at hchange
              split at h
              · next havailable =>
                  obtain ⟨v, w, pulled, rfl, hpull, h⟩ := runs_bind_iff.1 h
                  rw [runs_call_iff.1 hpull]
                  split at h
                  · obtain ⟨rfl, rfl⟩ := runs_pure_iff.1 h
                    exact .abandoned hlooks havailable hchange
                  · next e =>
                      obtain ⟨rfl, rfl⟩ := runs_pure_iff.1 h
                      exact .notPulled hlooks havailable hchange e
                  · obtain ⟨result, hreplace, rfl⟩ := exists_runs_of_replace h
                    exact .pulled hlooks havailable hchange hreplace
              · next hcurrent =>
                  rw [Bool.not_eq_true] at hcurrent
                  rw [hcurrent, Bool.false_or] at hstale
                  obtain ⟨result, hreplace, rfl⟩ := exists_runs_of_replace h
                  exact .superseded hlooks hcurrent hstale hchange hreplace

end UpdateRun

end ContainerFleet
