import ContainerFleet.Proofs.Program.Conversation
import ContainerFleet.Update.Run

/-!
The course of an update run, whatever the world replies: its containers are visited one after the
other, then images are pruned, and last the program's own container is seen to. Main statements:
`visits_of_runs_walk`, that the exchanges of a walk are those of its visits, `visited_of_runs`, what
one visit can be, and `deferred_of_runs_walk`, which container is left for the end.
-/

namespace ContainerFleet

/-- Update code that never asks the daemon to change a container or an image reference. -/
abbrev OnlyLooks {α : Type} (p : UpdateProgram α) : Prop :=
  Program.AsksOnly (I := updateInterface)
    (fun q => UpdateRequest.changesContainers q = false) p

section OnlyLooks

open Program

theorem onlyLooks_daemon (call : DaemonCall) (h : call.changesContainers = false) :
    OnlyLooks (UpdateProgram.daemon call) :=
  asksOnly_call h

theorem onlyLooks_store (call : StoreCall) : OnlyLooks (UpdateProgram.store call) :=
  asksOnly_call rfl

theorem onlyLooks_get (url : String) (timeout : Duration) :
    OnlyLooks (UpdateProgram.get url timeout) :=
  asksOnly_call rfl

theorem onlyLooks_now : OnlyLooks UpdateProgram.now :=
  asksOnly_call rfl

theorem onlyLooks_sleepUntil (moment : Moment) : OnlyLooks (UpdateProgram.sleepUntil moment) :=
  asksOnly_call rfl

theorem onlyLooks_ofReference (reference : String) :
    OnlyLooks (DigestCheck.ofReference reference) := by
  unfold DigestCheck.ofReference
  split
  · exact asksOnly_pure _
  · apply (onlyLooks_daemon (.image reference) rfl).bind
    intro image
    cases image with
    | error e => exact asksOnly_pure _
    | ok details =>
        apply (onlyLooks_daemon (.registryDigest reference) rfl).bind
        intro digest
        cases digest with
        | error e => exact asksOnly_pure _
        | ok digest => exact asksOnly_pure _

theorem onlyLooks_resolveReference (c : ContainerRecord) : OnlyLooks c.resolveReference := by
  unfold ContainerRecord.resolveReference
  split
  · apply (onlyLooks_daemon (.inspect c.id) rfl).bind
    intro details
    cases details with
    | error e => exact asksOnly_pure _
    | ok details => exact asksOnly_pure _
  · exact asksOnly_pure _

end OnlyLooks

namespace UpdateRun

open Program

variable {updater : Updater} {host : RunHost} {policy : UpdatePolicy} {c : ContainerRecord}

section OnlyLooks

theorem onlyLooks_record (name imageId updateRef : String) :
    OnlyLooks (record name imageId updateRef) :=
  onlyLooks_now.bind fun _ => onlyLooks_store _

theorem onlyLooks_notify (host : RunHost) (c : ContainerRecord) (check : DigestCheck) :
    OnlyLooks (notify host c check) := by
  apply (onlyLooks_record _ _ _).bind
  intro saved
  cases saved with
  | error e => exact asksOnly_pure _
  | ok _ => exact asksOnly_pure _

theorem onlyLooks_prune (host : RunHost) : OnlyLooks (prune host) := by
  apply (onlyLooks_daemon .prune rfl).bind
  intro reply
  cases reply with
  | error e => exact asksOnly_pure _
  | ok pruned =>
      dsimp only
      split
      · exact asksOnly_pure _
      · apply (onlyLooks_store _).bind
        intro deleted
        cases deleted with
        | error e => exact asksOnly_pure _
        | ok _ => exact asksOnly_pure _

theorem onlyLooks_trigger (baseUrl id : String) : OnlyLooks (Sidecar.trigger baseUrl id) :=
  onlyLooks_now.bind fun _ => (onlyLooks_get _ _).bind fun _ =>
    (onlyLooks_sleepUntil _).bind fun _ => asksOnly_pure _

theorem onlyLooks_selfUpdate (updater : Updater) (host : RunHost) (policy : UpdatePolicy)
    (me : ContainerRecord) : OnlyLooks (selfUpdate updater host policy me) := by
  apply (onlyLooks_ofReference _).bind
  intro reply
  cases reply with
  | error e => exact asksOnly_pure _
  | ok check =>
      dsimp only
      split
      · exact asksOnly_pure _
      · split
        · apply (onlyLooks_record _ _ _).bind
          intro saved
          cases saved with
          | error e => exact asksOnly_pure _
          | ok _ => exact asksOnly_pure _
        · apply (onlyLooks_trigger _ _).bind
          intro answer
          cases answer with
          | error e => exact asksOnly_pure _
          | ok _ => exact asksOnly_pure _

/-- Nothing after the visits changes a container. -/
theorem onlyLooks_finish (updater : Updater) (host : RunHost) (policy : UpdatePolicy)
    (walked : Walk) (cancelled : Bool) :
    OnlyLooks (finish updater host policy walked cancelled) := by
  unfold finish
  split
  · exact asksOnly_pure _
  · apply (onlyLooks_prune host).bind
    intro pruned
    cases walked.deferred with
    | none => exact asksOnly_pure _
    | some me => exact (onlyLooks_selfUpdate updater host policy me).bind fun _ => asksOnly_pure _

end OnlyLooks

/-- Outcomes of containers that were not up to date. -/
def Acted : Outcome → Prop
  | .notified _ => True
  | .updated _ => True
  | .rolledBack _ => True
  | .failed _ => True
  | _ => False

section Acted

theorem acted_notify (host : RunHost) (c : ContainerRecord) (check : DigestCheck) :
    Yields Acted (notify host c check) := by
  apply yields_bind
  intro saved
  cases saved with
  | error e => exact yields_pure trivial
  | ok _ => exact yields_pure trivial

theorem acted_replace (updater : Updater) (c : ContainerRecord) :
    Yields Acted (replace updater c) := by
  apply yields_bind
  intro result
  split <;> exact yields_pure trivial

theorem acted_pullAndReplace (updater : Updater) (c : ContainerRecord) :
    Yields Acted (pullAndReplace updater c) := by
  apply yields_bind
  intro pulled
  split
  · exact yields_pure trivial
  · exact yields_pure trivial
  · exact acted_replace updater c

/-- Only what the labels say makes a container wait. -/
theorem process_ne_deferredSelf (updater : Updater) (host : RunHost) (policy : UpdatePolicy)
    (c : ContainerRecord) : Yields (· ≠ .deferredSelf) (process updater host policy c) := by
  have hacted : ∀ {p : UpdateProgram Outcome}, Yields Acted p → Yields (· ≠ .deferredSelf) p := by
    rintro p hp trace _ hrun rfl
    exact hp trace _ hrun
  apply yields_bind
  intro reply
  cases reply with
  | error e => exact yields_pure Outcome.noConfusion
  | ok check =>
      dsimp only
      split
      · exact yields_pure Outcome.noConfusion
      · split
        · exact hacted (acted_notify host c check)
        · split
          · exact hacted (acted_pullAndReplace updater c)
          · exact hacted (acted_replace updater c)

end Acted

/-- The exchanges in which a newer image is remembered. -/
def recording (name imageId updateRef : String) (now : Moment) (saved : Except StoreError Unit) :
    List UpdateExchange :=
  [⟨UpdateRequest.now, now⟩,
    ⟨UpdateRequest.store (.save ⟨name, imageId, updateRef, Timestamp.ofSinceEpoch now⟩), saved⟩]

theorem exists_recording_of_runs {name imageId updateRef : String}
    {saved : Except StoreError Unit} {trace : List UpdateExchange}
    (h : Runs (record name imageId updateRef) trace saved) :
    ∃ now, trace = recording name imageId updateRef now saved := by
  obtain ⟨t, u, now, rfl, hnow, h⟩ := runs_bind_iff.1 h
  rw [runs_call_iff.1 hnow, runs_call_iff.1 h]
  exact ⟨now, rfl⟩

/-- What a record that was to be kept means for a container. -/
def outcomeOfSaved (updateRef : String) : Except StoreError Unit → Outcome
  | .ok () => .notified updateRef
  | .error e => .failed e.message

theorem exists_recording_of_runs_notify {check : DigestCheck} {trace : List UpdateExchange}
    {outcome : Outcome} (h : Runs (notify host c check) trace outcome) :
    ∃ now saved,
      trace = recording host.name (recordedImage c check) check.remoteDigest now saved ∧
        outcome = outcomeOfSaved check.remoteDigest saved := by
  obtain ⟨t, u, saved, rfl, hrecord, hrest⟩ := runs_bind_iff.1 h
  obtain ⟨now, rfl⟩ := exists_recording_of_runs hrecord
  have hend : u = [] ∧ outcome = outcomeOfSaved check.remoteDigest saved := by
    cases saved <;> exact runs_pure_iff.1 hrest
  rw [hend.1, hend.2, List.append_nil]
  exact ⟨now, saved, rfl, rfl⟩

/-- The question whether the run was cancelled, with its answer. -/
def asked (cancelled : Bool) : UpdateExchange :=
  ⟨UpdateRequest.isCancelled, cancelled⟩

theorem eq_asked_of_runs {trace : List UpdateExchange} {cancelled : Bool}
    (h : Runs UpdateProgram.isCancelled trace cancelled) : trace = [asked cancelled] :=
  runs_call_iff.1 h

/-- The exchanges in which the reference of a listed container is found out. -/
inductive Resolves (listed : ContainerRecord) :
    List UpdateExchange → Except DaemonError ContainerRecord → Prop where
  | listed (h : Digest.isImageId listed.image = false) : Resolves listed [] (.ok listed)
  | inspected (h : Digest.isImageId listed.image = true) (details : ContainerDetails) :
      Resolves listed [said (.inspect listed.id) (.ok details)]
        (.ok (listed.withReference details.image))
  | failed (h : Digest.isImageId listed.image = true) (e : DaemonError) :
      Resolves listed [said (.inspect listed.id) (.error e)] (.error e)

theorem resolves_of_runs {listed : ContainerRecord} {trace : List UpdateExchange}
    {reply : Except DaemonError ContainerRecord}
    (hrun : Runs listed.resolveReference trace reply) : Resolves listed trace reply := by
  unfold ContainerRecord.resolveReference at hrun
  split at hrun
  · next himage =>
      obtain ⟨t, u, details, rfl, hinspect, h⟩ := runs_bind_iff.1 hrun
      rw [UpdateProgram.runs_daemon_iff.1 hinspect]
      cases details with
      | error e =>
          obtain ⟨rfl, rfl⟩ := runs_pure_iff.1 h
          exact .failed himage e
      | ok details =>
          obtain ⟨rfl, rfl⟩ := runs_pure_iff.1 h
          exact .inspected himage details
  · next himage =>
      obtain ⟨rfl, rfl⟩ := runs_pure_iff.1 hrun
      exact .listed (Bool.eq_false_iff.2 himage)

theorem Resolves.id_eq {listed : ContainerRecord} {trace : List UpdateExchange}
    (h : Resolves listed trace (.ok c)) : c.id = listed.id := by
  cases h with
  | listed _ => rfl
  | inspected _ details => rfl

theorem Resolves.labels_eq {listed : ContainerRecord} {trace : List UpdateExchange}
    (h : Resolves listed trace (.ok c)) : c.labels = listed.labels := by
  cases h with
  | listed _ => rfl
  | inspected _ details => rfl

/-- What is said of a container whose reference could not be found out. -/
def unresolved (e : DaemonError) : Outcome :=
  .failed ("resolving image reference failed: " ++ e.message)

/-- The exchanges of the visit to a listed container, and what came of it. -/
inductive Visited (updater : Updater) (host : RunHost) (policy : UpdatePolicy)
    (listed : ContainerRecord) : List UpdateExchange → Step → Prop where
  | unresolved {t : List UpdateExchange} {e : DaemonError} (h : Resolves listed t (.error e)) :
      Visited updater host policy listed t (.ofOutcome listed (unresolved e))
  | skipped {t : List UpdateExchange} {c : ContainerRecord} {reason : SkipReason}
      (h : Resolves listed t (.ok c)) (hclass : c.classify policy host.isLocal = .skip reason) :
      Visited updater host policy listed t (.ofOutcome c (.skipped reason))
  | deferred {t : List UpdateExchange} {c : ContainerRecord} (h : Resolves listed t (.ok c))
      (hclass : c.classify policy host.isLocal = .deferSelf) :
      Visited updater host policy listed t (.ofDeferred c)
  | processed {t u : List UpdateExchange} {c : ContainerRecord} {outcome : Outcome}
      (h : Resolves listed t (.ok c)) (hclass : c.classify policy host.isLocal = .eligible)
      (hprocess : Runs (process updater host policy c) u outcome) :
      Visited updater host policy listed (t ++ u) (.ofOutcome c outcome)

theorem visited_of_runs {listed : ContainerRecord} {trace : List UpdateExchange} {done : Step}
    (hrun : Runs (step updater host policy listed) trace done) :
    Visited updater host policy listed trace done := by
  obtain ⟨t, u, reply, rfl, hresolve, h⟩ := runs_bind_iff.1 hrun
  have hresolves := resolves_of_runs hresolve
  cases reply with
  | error e =>
      obtain ⟨rfl, rfl⟩ := runs_pure_iff.1 h
      rw [List.append_nil]
      exact .unresolved hresolves
  | ok c =>
      dsimp only at h
      split at h
      · next reason hclass =>
          obtain ⟨rfl, rfl⟩ := runs_pure_iff.1 h
          rw [List.append_nil]
          exact .skipped hresolves hclass
      · next hclass =>
          obtain ⟨rfl, rfl⟩ := runs_pure_iff.1 h
          rw [List.append_nil]
          exact .deferred hresolves hclass
      · next hclass =>
          obtain ⟨v, w, outcome, rfl, hprocess, h⟩ := runs_bind_iff.1 h
          obtain ⟨rfl, rfl⟩ := runs_pure_iff.1 h
          rw [List.append_nil]
          exact .processed hresolves hclass hprocess

/-- The visit to one container. -/
structure Visit where
  listed : ContainerRecord
  trace : List UpdateExchange
  done : Step

namespace Visit

/-- Before each visit it is asked whether the run was cancelled. -/
def exchanges (v : Visit) : List UpdateExchange :=
  asked false :: v.trace

def report (v : Visit) : ContainerReport :=
  v.done.report

end Visit

/-- The exchanges and results of a walk are those of some visits, in the order of the containers.
All are visited unless the run is cancelled before. -/
structure Visits (updater : Updater) (host : RunHost) (policy : UpdatePolicy)
    (containers : List ContainerRecord) (visits : List Visit) (trace : List UpdateExchange)
    (walked : Walk) : Prop where
  runs : ∀ v ∈ visits, Runs (step updater host policy v.listed) v.trace v.done
  listed_prefix : visits.map Visit.listed <+: containers
  reports_eq : walked.reports = visits.map Visit.report
  trace_eq : trace = visits.flatMap Visit.exchanges ++ if walked.cancelled then [asked true] else []
  listed_eq : walked.cancelled = false → visits.map Visit.listed = containers

theorem Visits.trace_subset {containers : List ContainerRecord} {visits : List Visit}
    {trace : List UpdateExchange} {walked : Walk}
    (h : Visits updater host policy containers visits trace walked) {v : Visit} (hv : v ∈ visits) :
    v.trace ⊆ trace := by
  intro x hx
  rw [h.trace_eq]
  exact List.mem_append_left _ (List.mem_flatMap.2 ⟨v, hv, List.mem_cons_of_mem _ hx⟩)

/-- What is true of the exchanges of all visits is true of the walk, if it is of the questions
between them. -/
theorem Visits.forall_mem {containers : List ContainerRecord} {visits : List Visit}
    {trace : List UpdateExchange} {walked : Walk} {P : UpdateExchange → Prop}
    (h : Visits updater host policy containers visits trace walked) (hasked : ∀ b, P (asked b))
    (hvisit : ∀ v ∈ visits, ∀ x ∈ v.trace, P x) : ∀ x ∈ trace, P x := by
  rw [h.trace_eq]
  refine List.forall_mem_append.2 ⟨fun x hx => ?_, fun x hx => ?_⟩
  · obtain ⟨v, hv, hx⟩ := List.mem_flatMap.1 hx
    rcases List.mem_cons.1 hx with rfl | hx
    · exact hasked false
    · exact hvisit v hv x hx
  · split at hx
    · exact List.mem_singleton.1 hx ▸ hasked true
    · cases hx

/-- The walk is cut into visits by induction on the containers that are left. -/
theorem visits_of_runs_walk {containers : List ContainerRecord} {deferred : Option ContainerRecord}
    {trace : List UpdateExchange} {walked : Walk}
    (h : Runs (walk updater host policy containers deferred) trace walked) :
    ∃ visits, Visits updater host policy containers visits trace walked := by
  induction containers generalizing deferred trace walked with
  | nil =>
      obtain ⟨rfl, rfl⟩ := runs_pure_iff.1 h
      exact ⟨[], by simp, List.nil_prefix, rfl, rfl, fun _ => rfl⟩
  | cons c cs ih =>
      obtain ⟨t, u, stop, rfl, hstop, h⟩ := runs_bind_iff.1 h
      rw [eq_asked_of_runs hstop]
      cases stop with
      | true =>
          obtain ⟨rfl, rfl⟩ := runs_pure_iff.1 h
          refine ⟨[], by simp, List.nil_prefix, rfl, rfl, ?_⟩
          intro hend
          cases hend
      | false =>
          obtain ⟨v, w, done, rfl, hstep, h⟩ := runs_bind_iff.1 h
          obtain ⟨x, y, rest, rfl, hrest, h⟩ := runs_bind_iff.1 h
          obtain ⟨rfl, rfl⟩ := runs_pure_iff.1 h
          obtain ⟨visits, hvisits⟩ := ih hrest
          refine ⟨⟨c, v, done⟩ :: visits, ?_, ?_, ?_, ?_, ?_⟩
          · rw [List.forall_mem_cons]
            exact ⟨hstep, hvisits.runs⟩
          · exact (List.prefix_cons_inj c).2 hvisits.listed_prefix
          · exact congrArg (done.report :: ·) hvisits.reports_eq
          · rw [hvisits.trace_eq]
            simp [Visit.exchanges]
          · intro hend
            exact congrArg (c :: ·) (hvisits.listed_eq hend)

/-- The last entry of a report whose container has to wait. -/
def lastDeferred? (reports : List ContainerReport) : Option ContainerReport :=
  (reports.filter fun e => e.outcome = .deferredSelf).getLast?

theorem lastDeferred?_cons (e : ContainerReport) (reports : List ContainerReport) :
    lastDeferred? (e :: reports) =
      (lastDeferred? reports).or (if e.outcome = .deferredSelf then some e else none) := by
  rw [lastDeferred?, List.filter_cons]
  split
  · next h => simp_all [lastDeferred?, List.getLast?_cons]
  · next h => simp_all [lastDeferred?]

/-- The entry of a container that has to wait. -/
def deferredEntry (c : ContainerRecord) : ContainerReport :=
  (Step.ofDeferred c).report

theorem Visited.deferred_eq {listed : ContainerRecord} {trace : List UpdateExchange} {done : Step}
    (h : Visited updater host policy listed trace done) :
    done.deferred.map deferredEntry =
      if done.report.outcome = .deferredSelf then some done.report else none := by
  cases h with
  | unresolved h => rfl
  | skipped h hclass => rfl
  | deferred h hclass => rfl
  | processed h hclass hprocess =>
      have hne := process_ne_deferredSelf updater host policy _ _ _ hprocess
      exact (if_neg hne).symm

/-- A walk keeps the last container that has to wait and forgets those before it. -/
theorem deferred_of_runs_walk {containers : List ContainerRecord}
    {deferred : Option ContainerRecord} {trace : List UpdateExchange} {walked : Walk}
    (h : Runs (walk updater host policy containers deferred) trace walked) :
    walked.deferred.map deferredEntry =
      (lastDeferred? walked.reports).or (deferred.map deferredEntry) := by
  induction containers generalizing deferred trace walked with
  | nil =>
      obtain ⟨rfl, rfl⟩ := runs_pure_iff.1 h
      rfl
  | cons c cs ih =>
      obtain ⟨t, u, stop, rfl, hstop, h⟩ := runs_bind_iff.1 h
      cases stop with
      | true =>
          obtain ⟨rfl, rfl⟩ := runs_pure_iff.1 h
          rfl
      | false =>
          obtain ⟨v, w, done, rfl, hstep, h⟩ := runs_bind_iff.1 h
          obtain ⟨x, y, rest, rfl, hrest, h⟩ := runs_bind_iff.1 h
          obtain ⟨rfl, rfl⟩ := runs_pure_iff.1 h
          -- The container that has to wait now takes the place of an earlier one.
          have hdone := (visited_of_runs hstep).deferred_eq
          rw [lastDeferred?_cons, ← hdone, ih hrest, Option.or_assoc]
          cases done.deferred <;> rfl

/-- The exchanges in which unused images are removed, and what is remembered about them, and what is
said of that. -/
inductive Prunes (host : RunHost) : List UpdateExchange → PruneSummary → Prop where
  | failed (e : DaemonError) : Prunes host [said .prune (.error e)] ⟨[], 0, some e.message⟩
  | nothing (spaceReclaimed : Nat) :
      Prunes host [said .prune (.ok ⟨[], spaceReclaimed⟩)] ⟨[], spaceReclaimed, none⟩
  | removed {pruned : Pruned} (h : pruned.deleted ≠ []) (reply : Except StoreError Unit) :
      Prunes host [said .prune (.ok pruned),
          ⟨UpdateRequest.store (.delete host.name pruned.deleted), reply⟩]
        ⟨pruned.deleted, pruned.spaceReclaimed,
          match reply with
          | .ok () => none
          | .error e => some e.message⟩

theorem prunes_of_runs {trace : List UpdateExchange} {summary : PruneSummary}
    (h : Runs (prune host) trace summary) : Prunes host trace summary := by
  obtain ⟨t, u, reply, rfl, hprune, h⟩ := runs_bind_iff.1 h
  rw [UpdateProgram.runs_daemon_iff.1 hprune]
  cases reply with
  | error e =>
      obtain ⟨rfl, rfl⟩ := runs_pure_iff.1 h
      exact .failed e
  | ok pruned =>
      dsimp only at h
      split at h
      · next hempty =>
          obtain ⟨rfl, rfl⟩ := runs_pure_iff.1 h
          obtain ⟨deleted, spaceReclaimed⟩ := pruned
          obtain rfl : deleted = [] := List.isEmpty_iff.1 hempty
          exact .nothing spaceReclaimed
      · next hsome =>
          obtain ⟨v, w, deleted, rfl, hdelete, h⟩ := runs_bind_iff.1 h
          rw [runs_call_iff.1 hdelete]
          have hpruned : pruned.deleted ≠ [] := fun heq => hsome (List.isEmpty_iff.2 heq)
          cases deleted with
          | error e =>
              obtain ⟨rfl, rfl⟩ := runs_pure_iff.1 h
              exact .removed hpruned (.error e)
          | ok _ =>
              obtain ⟨rfl, rfl⟩ := runs_pure_iff.1 h
              exact .removed hpruned (.ok ())

/-- What follows the walk. A run that was cancelled ends at once. Otherwise images are pruned, and
then the container that has to wait, if there is one, is seen to. -/
inductive Finished (updater : Updater) (host : RunHost) (policy : UpdatePolicy) (walked : Walk) :
    Bool → List UpdateExchange → UpdateReport → Prop where
  | cancelled :
      Finished updater host policy walked true []
        ⟨host.name, walked.reports, none,
          if walked.deferred.isSome then .cancelled else .notDeferred, true⟩
  | noneDeferred (hnone : walked.deferred = none) {t : List UpdateExchange}
      {summary : PruneSummary} (hprune : Runs (prune host) t summary) :
      Finished updater host policy walked false t
        ⟨host.name, walked.reports, some summary, .notDeferred, false⟩
  | deferred {me : ContainerRecord} (hsome : walked.deferred = some me)
      {t u : List UpdateExchange} {summary : PruneSummary} (hprune : Runs (prune host) t summary)
      {state : SelfUpdate} (hself : Runs (selfUpdate updater host policy me) u state) :
      Finished updater host policy walked false (t ++ u)
        ⟨host.name, walked.reports, some summary, state, false⟩

theorem finished_of_runs {walked : Walk} {cancelled : Bool} {trace : List UpdateExchange}
    {report : UpdateReport}
    (h : Runs (finish updater host policy walked cancelled) trace report) :
    Finished updater host policy walked cancelled trace report := by
  cases cancelled with
  | true =>
      obtain ⟨rfl, rfl⟩ := runs_pure_iff.1 h
      exact .cancelled
  | false =>
      obtain ⟨t, u, summary, rfl, hprune, h⟩ := runs_bind_iff.1 h
      cases hdeferred : walked.deferred with
      | none =>
          rw [hdeferred] at h
          obtain ⟨rfl, rfl⟩ := runs_pure_iff.1 h
          rw [List.append_nil]
          exact .noneDeferred hdeferred hprune
      | some me =>
          rw [hdeferred] at h
          obtain ⟨v, w, state, rfl, hself, h⟩ := runs_bind_iff.1 h
          obtain ⟨rfl, rfl⟩ := runs_pure_iff.1 h
          rw [List.append_nil]
          exact .deferred hdeferred hprune hself

theorem Finished.containers_eq {walked : Walk} {cancelled : Bool} {trace : List UpdateExchange}
    {report : UpdateReport} (h : Finished updater host policy walked cancelled trace report) :
    report.containers = walked.reports := by
  cases h <;> rfl

/-- A run is its walk, the question whether it was cancelled meanwhile, and what is done then. -/
theorem parts_of_runs_run {containers : List ContainerRecord} {trace : List UpdateExchange}
    {report : UpdateReport} (h : Runs (run updater host policy containers) trace report) :
    ∃ looped rest walked cancelled, trace = looped ++ asked cancelled :: rest ∧
      Runs (walk updater host policy containers none) looped walked ∧
      Runs (finish updater host policy walked (walked.cancelled || cancelled)) rest report := by
  obtain ⟨t, u, walked, rfl, hwalk, h⟩ := runs_bind_iff.1 h
  obtain ⟨v, w, cancelled, rfl, hcancelled, h⟩ := runs_bind_iff.1 h
  rw [eq_asked_of_runs hcancelled]
  exact ⟨t, w, walked, cancelled, rfl, hwalk, h⟩

end UpdateRun

end ContainerFleet
