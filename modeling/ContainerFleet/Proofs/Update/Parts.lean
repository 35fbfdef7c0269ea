import ContainerFleet.Proofs.Update.Requests

/-!
An update run taken apart: its visits, and what closes it. Main statements: `exists_runParts`, that
every run has these parts, and `asksOnly_run`, that a run deals with records of its own host only.
-/

namespace ContainerFleet

namespace UpdateRun

open Program

variable {updater : Updater} {host : RunHost} {policy : UpdatePolicy}
  {containers : List ContainerRecord} {visits : List Visit} {closing trace : List UpdateExchange}
  {report : UpdateReport}

/-- What is said of the containers that have to wait when the run is cancelled. -/
def selfCancelled (reports : List ContainerReport) : SelfUpdate :=
  if (lastDeferred? reports).isSome then .cancelled else .notDeferred

/-- What follows the visits of a run. It is cancelled: this is found out before another visit, and
then asked once more, or only after all. Or it is not: then images are pruned, and the last of the
containers that have to wait is seen to. -/
inductive Closes (updater : Updater) (host : RunHost) (policy : UpdatePolicy)
    (reports : List ContainerReport) : List UpdateExchange → UpdateReport → Prop where
  | stopped (again : Bool) :
      Closes updater host policy reports [asked true, asked again]
        ⟨host.name, reports, none, selfCancelled reports, true⟩
  | stoppedLast :
      Closes updater host policy reports [asked true]
        ⟨host.name, reports, none, selfCancelled reports, true⟩
  | finished {pruned last : List UpdateExchange} {summary : PruneSummary} {state : SelfUpdate}
      (hprune : Prunes host pruned summary)
      (hself : DeferredSeen updater host policy (lastDeferred? reports) last state) :
      Closes updater host policy reports (asked false :: (pruned ++ last))
        ⟨host.name, reports, some summary, state, false⟩

/-- The parts of a run: its visits, in the order of the containers, and what closes it. All
containers are visited unless it was cancelled. -/
structure RunParts (updater : Updater) (host : RunHost) (policy : UpdatePolicy)
    (containers : List ContainerRecord) (visits : List Visit) (closing trace : List UpdateExchange)
    (report : UpdateReport) : Prop where
  runs : ∀ v ∈ visits, Runs (step updater host policy v.listed) v.trace v.done
  listed_prefix : visits.map Visit.listed <+: containers
  listed_eq : report.cancelled = false → visits.map Visit.listed = containers
  trace_eq : trace = visits.flatMap Visit.exchanges ++ closing
  closes : Closes updater host policy (visits.map Visit.report) closing report

theorem Finished.closes {walked : Walk} {cancelled : Bool} {t : List UpdateExchange}
    (hdeferred : walked.deferred.map deferredEntry = lastDeferred? walked.reports)
    (h : Finished updater host policy walked cancelled t report) :
    Closes updater host policy walked.reports (asked cancelled :: t) report := by
  cases h with
  | cancelled =>
      rw [← Option.isSome_map (f := deferredEntry), hdeferred]
      exact .stoppedLast
  | noneDeferred hnone hprune =>
      rw [hnone, Option.map_none] at hdeferred
      rw [← List.append_nil t]
      exact .finished (prunes_of_runs hprune) (hdeferred ▸ .none)
  | deferred hsome hprune hself =>
      rw [hsome, Option.map_some] at hdeferred
      exact .finished (prunes_of_runs hprune) (hdeferred ▸ .checked (selfChecked_of_runs hself))

theorem exists_runParts (hrun : Runs (run updater host policy containers) trace report) :
    ∃ visits closing, RunParts updater host policy containers visits closing trace report := by
  obtain ⟨looped, rest, walked, cancelled, rfl, hwalk, hfinish⟩ := parts_of_runs_run hrun
  obtain ⟨visits, hvisits⟩ := visits_of_runs_walk hwalk
  have hdeferred := deferred_of_runs_walk hwalk
  rw [Option.map_none, Option.or_none] at hdeferred
  have hfinished := finished_of_runs hfinish
  have htrace := hvisits.trace_eq
  cases hwalked : walked.cancelled with
  | true =>
      -- The walk was cut short; what is asked after it makes no difference.
      rw [hwalked, Bool.true_or] at hfinished
      rw [hwalked, if_pos rfl] at htrace
      cases hfinished with
      | cancelled =>
          refine ⟨visits, [asked true, asked cancelled], hvisits.runs, hvisits.listed_prefix,
            Bool.noConfusion, by rw [htrace, List.append_assoc]; rfl, ?_⟩
          rw [← hvisits.reports_eq, ← Option.isSome_map (f := deferredEntry), hdeferred]
          exact .stopped cancelled
  | false =>
      rw [hwalked, Bool.false_or] at hfinished
      rw [hwalked, if_neg Bool.false_ne_true, List.append_nil] at htrace
      refine ⟨visits, asked cancelled :: rest, hvisits.runs, hvisits.listed_prefix,
        fun _ => hvisits.listed_eq hwalked, by rw [htrace], ?_⟩
      rw [← hvisits.reports_eq]
      exact hfinished.closes hdeferred

theorem Closes.containers_eq {reports : List ContainerReport}
    (h : Closes updater host policy reports closing report) : report.containers = reports := by
  cases h <;> rfl

theorem RunParts.containers_eq
    (h : RunParts updater host policy containers visits closing trace report) :
    report.containers = visits.map Visit.report :=
  h.closes.containers_eq

/-- What is true of the requests of all visits and of what closes the run is true of all requests,
if it is of the questions before the visits. -/
theorem RunParts.forall_mem {P : UpdateExchange → Prop}
    (h : RunParts updater host policy containers visits closing trace report)
    (hasked : P (asked false)) (hvisit : ∀ v ∈ visits, ∀ x ∈ v.trace, P x)
    (hclosing : ∀ x ∈ closing, P x) : ∀ x ∈ trace, P x := by
  rw [h.trace_eq]
  refine List.forall_mem_append.2 ⟨fun x hx => ?_, hclosing⟩
  obtain ⟨v, hv, hx⟩ := List.mem_flatMap.1 hx
  rcases List.mem_cons.1 hx with rfl | hx
  · exact hasked
  · exact hvisit v hv x hx

theorem RunParts.onVisit
    (h : RunParts updater host policy containers visits closing trace report) {v : Visit}
    (hv : v ∈ visits) : OnVisit host.name v.trace :=
  asksOnly_step updater host policy v.listed _ _ (h.runs v hv)

/-- No visit asks the daemon to prune. -/
theorem RunParts.prune_not_mem
    (h : RunParts updater host policy containers visits closing trace report) :
    DaemonCall.prune ∉ daemonCalls (visits.flatMap Visit.exchanges) := by
  intro hmem
  obtain ⟨reply, hsaid⟩ := exists_said_mem hmem
  obtain ⟨v, hv, hsaid⟩ := List.mem_flatMap.1 hsaid
  rcases List.mem_cons.1 hsaid with hasked | hsaid
  · cases hasked
  · exact h.onVisit hv _ hsaid rfl

end UpdateRun

/-- What may be asked when the visits of a run on this host are over and it goes on. -/
def UpdateRequest.AfterVisits (name : String) : UpdateRequest → Prop
  | .daemon call => call.changesContainers = false
  | .pull _ => False
  | .store call => call.host = name
  | .get _ timeout => timeout = Sidecar.timeout
  | .now => True
  | .sleepUntil _ => True
  | .isCancelled => False

namespace UpdateRequest

variable {name : String} {q : UpdateRequest}

theorem AfterVisits.about (h : q.AfterVisits name) : q.About name := by
  cases q with
  | store call => exact h
  | _ => trivial

theorem AfterVisits.looks (h : q.AfterVisits name) : q.changesContainers = false := by
  cases q with
  | daemon call => exact h
  | pull image => cases h
  | _ => rfl

theorem afterVisits_of_isLookup (h : q.isLookup = true) : q.AfterVisits name := by
  obtain ⟨call, rfl, hcall⟩ := of_isLookup h
  exact hcall

end UpdateRequest

theorem Lookups.afterVisits {t : List UpdateExchange} (h : Lookups t) (name : String) :
    ∀ x ∈ t, UpdateRequest.AfterVisits name x.request :=
  fun x hx => UpdateRequest.afterVisits_of_isLookup (h x hx)

namespace UpdateRun

open Program

variable {updater : Updater} {host : RunHost} {policy : UpdatePolicy}

theorem Prunes.afterVisits {t : List UpdateExchange} {summary : PruneSummary}
    (h : Prunes host t summary) : ∀ x ∈ t, UpdateRequest.AfterVisits host.name x.request := by
  cases h <;>
    simp [said, UpdateRequest.AfterVisits, DaemonCall.changesContainers, StoreCall.host]

theorem DeferredSeen.afterVisits {e : Option ContainerReport} {t : List UpdateExchange}
    {state : SelfUpdate} (h : DeferredSeen updater host policy e t state) :
    ∀ x ∈ t, UpdateRequest.AfterVisits host.name x.request := by
  cases h with
  | none => exact List.forall_mem_nil _
  | checked h =>
      cases h with
      | notCompared h => exact (lookups_of_looksUp h).afterVisits _
      | upToDate h _ => exact (lookups_of_looksUp h).afterVisits _
      | recorded h _ _ now saved =>
          refine List.forall_mem_append.2 ⟨(lookups_of_looksUp h).afterVisits _, ?_⟩
          simp [recording, UpdateRequest.AfterVisits, StoreCall.host]
      | handedOver h _ _ _ now reply =>
          refine List.forall_mem_append.2 ⟨(lookups_of_looksUp h).afterVisits _, ?_⟩
          simp [requesting, UpdateRequest.AfterVisits]

theorem asksOnly_run (updater : Updater) (host : RunHost) (policy : UpdatePolicy)
    (containers : List ContainerRecord) :
    AsksOnly (I := updateInterface) (UpdateRequest.About host.name)
      (run updater host policy containers) := by
  intro trace report hrun
  obtain ⟨visits, closing, h⟩ := exists_runParts hrun
  refine h.forall_mem trivial (fun v hv x hx => (h.onVisit hv x hx).about) ?_
  cases h.closes with
  | stopped again => simp [asked, UpdateRequest.About]
  | stoppedLast => simp [asked, UpdateRequest.About]
  | finished hprune hself =>
      rw [List.forall_mem_cons, List.forall_mem_append]
      exact ⟨trivial, fun x hx => (hprune.afterVisits x hx).about,
        fun x hx => (hself.afterVisits x hx).about⟩

end UpdateRun

end ContainerFleet
