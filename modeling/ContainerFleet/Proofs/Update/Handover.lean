import ContainerFleet.Proofs.Update.Cancellation

/-!
When an update run asks the helper to replace the program's own container. Main statements:
`RunParts.handedOver`, that all visits are over by then and nothing is changed afterwards, and
`handedOver_cancelled_iff`, that it is asked in a cancelled run exactly when images are pruned or
were by the time of the cancellation.
-/

namespace ContainerFleet

/-- Whether a request is one to the helper. The addresses of a health check get less time. -/
def UpdateRequest.asksHelper : UpdateRequest → Bool
  | .get _ timeout => decide (timeout = Sidecar.timeout)
  | _ => false

theorem UpdateRequest.OnVisit.asksHelper_eq {name : String} {q : UpdateRequest}
    (h : q.OnVisit name) : q.asksHelper = false := by
  cases q with
  | get url timeout =>
      have htimeout : timeout = Health.pingTimeout := h
      have hne : Health.pingTimeout ≠ Sidecar.timeout := by decide
      simp [asksHelper, htimeout, hne]
  | _ => rfl

theorem UpdateRequest.AfterVisits.showsOpen_eq {name : String} {x : UpdateExchange}
    (h : UpdateRequest.AfterVisits name x.request) : showsOpen x = false := by
  obtain ⟨q, reply⟩ := x
  change UpdateRequest at q
  cases q with
  | isCancelled => cases h
  | _ => rfl

namespace UpdateRun

open Program

variable {updater : Updater} {host : RunHost} {policy : UpdatePolicy}
  {containers : List ContainerRecord} {visits : List Visit}
  {closing trace before after : List UpdateExchange} {x : UpdateExchange} {report : UpdateReport}

/-- A run that asks more than whether it is cancelled when its visits are over was not cancelled as
far as it knows, and what it asks then changes no container. -/
theorem Closes.of_mem {reports : List ContainerReport}
    (h : Closes updater host policy reports closing report) (hmem : x ∈ closing)
    (hx : ∀ b, x ≠ asked b) :
    report.cancelled = false ∧ ∃ rest, closing = asked false :: rest ∧
      ∀ y ∈ rest, UpdateRequest.AfterVisits host.name y.request := by
  cases h with
  | stopped again => simp [hx] at hmem
  | stoppedLast => simp [hx] at hmem
  | finished hprune hself =>
      exact ⟨rfl, _, rfl, List.forall_mem_append.2 ⟨hprune.afterVisits, hself.afterVisits⟩⟩

/-- A run in which the helper is asked was not cancelled as far as it knows. All containers were
visited before, and none is changed afterwards. -/
theorem RunParts.handedOver
    (h : RunParts updater host policy containers visits closing (before ++ x :: after) report)
    (hx : UpdateRequest.asksHelper x.request = true) :
    report.cancelled = false ∧ visits.map Visit.listed = containers ∧
      visits.flatMap Visit.exchanges <+: before ∧
      ∀ y ∈ after, UpdateRequest.changesContainers y.request = false := by
  have hasked : ∀ b, x ≠ asked b := by
    rintro b rfl
    cases hx
  rcases exists_of_flatMap_append_eq h.trace_eq.symm with
    ⟨earlier, v, later, start, rest, rfl, hv, rfl, rfl⟩ | ⟨ended, rfl, rfl⟩
  · have hmem : x ∈ v.exchanges := by simp [hv]
    have hvisit := (List.mem_cons.1 hmem).resolve_left (hasked false)
    have hnot := (h.onVisit (by simp) x hvisit).asksHelper_eq
    cases hnot.symm.trans hx
  · obtain ⟨hcancelled, rest, hclosing, hrest⟩ := h.closes.of_mem (x := x) (by simp) hasked
    refine ⟨hcancelled, h.listed_eq hcancelled, List.prefix_append _ _, fun y hy => ?_⟩
    cases ended with
    | nil => exact absurd (List.cons.inj hclosing).1 (hasked false)
    | cons z ended =>
        obtain ⟨-, rfl⟩ := List.cons.inj hclosing
        exact (hrest y (by simp [hy])).looks

/-- Once images are being pruned, nothing shows whether the run is cancelled. -/
theorem RunParts.showsOpen_eq
    (h : RunParts updater host policy containers visits closing (before ++ x :: after) report)
    (hprune : DaemonCall.prune ∈ daemonCalls (before ++ [x])) :
    ∀ y ∈ x :: after, showsOpen y = false := by
  have hvisits := h.prune_not_mem
  rcases exists_of_flatMap_append_eq h.trace_eq.symm with
    ⟨earlier, v, later, start, rest, rfl, hv, rfl, rfl⟩ | ⟨ended, rfl, rfl⟩
  · refine absurd (List.Sublist.mem hprune (List.Sublist.filterMap daemonCall? ?_)) hvisits
    simp [hv]
  · rw [List.append_assoc, daemonCalls_append] at hprune
    have hended := (List.mem_append.1 hprune).resolve_left hvisits
    obtain ⟨reply, hsaid⟩ := exists_said_mem hended
    have hmem : said .prune reply ∈ ended ++ x :: after := by
      rcases List.mem_append.1 hsaid with hsaid | hsaid
      · exact List.mem_append_left _ hsaid
      · exact List.mem_append_right _ (List.mem_singleton.1 hsaid ▸ List.mem_cons_self)
    obtain ⟨-, rest, hclosing, hrest⟩ := h.closes.of_mem hmem fun b heq => by cases heq
    cases ended with
    | nil =>
        obtain ⟨rfl, -⟩ := List.cons.inj hclosing
        cases hended
    | cons z ended =>
        obtain ⟨-, rfl⟩ := List.cons.inj hclosing
        exact fun y hy => (hrest y (List.mem_append_right _ hy)).showsOpen_eq

/-- An update run that asks the helper after some exchange says that it was not cancelled. It may
have been cancelled in this exchange exactly when nothing before shows that, and images are pruned
in the exchange or were before: a run that is cancelled earlier never asks the helper, and later
nobody asks whether it is cancelled. -/
theorem handedOver_cancelled_iff
    (hrun : Runs (run updater host policy containers) (before ++ x :: after) report)
    {y : UpdateExchange} (hy : y ∈ after) (hhelper : UpdateRequest.asksHelper y.request = true) :
    report.cancelled = false ∧
      (CancelledIn before x after ↔
        (∀ z ∈ before, showsCancelled z = false) ∧
          DaemonCall.prune ∈ daemonCalls (before ++ [x])) := by
  obtain ⟨visits, closing, h⟩ := exists_runParts hrun
  have hopen : report.cancelled = false := by
    obtain ⟨start, rest, rfl⟩ := List.append_of_mem hy
    have hparts : RunParts updater host policy containers visits closing
        ((before ++ x :: start) ++ y :: rest) report := by
      rw [List.append_assoc]
      exact h
    exact (hparts.handedOver hhelper).1
  refine ⟨hopen, fun hcancel => ⟨hcancel.unaware, ?_⟩, fun ⟨hunaware, hprune⟩ => ?_⟩
  · apply Classical.byContradiction
    intro hnot
    cases (h.stopped hcancel hnot).1.symm.trans hopen
  · exact ⟨hunaware, h.showsOpen_eq hprune⟩

/-- A run that is cancelled while images are pruned goes on to ask the helper. -/
theorem handedOver_cancelled_threeOutdated :
    let ended := ranUntil "prune" threeOutdated.daemon
    ∃ before x after, ended.1 = before ++ x :: after ∧
      (∃ y ∈ after, UpdateRequest.asksHelper y.request = true) ∧ ended.2.1.cancelled = false ∧
      CancelledIn before x after := by
  intro ended
  have hlength : 19 < ended.1.length := by decide +kernel
  have hunaware : ∀ z ∈ ended.1.take 19, showsCancelled z = false := by decide +kernel
  have hprune : DaemonCall.prune ∈ daemonCalls (ended.1.take 19 ++ [ended.1[19]]) := by
    decide +kernel +revert
  have hhelper : ∃ y ∈ ended.1.drop 20, UpdateRequest.asksHelper y.request = true := by
    decide +kernel
  have hrun := runs_ranUntil "prune" threeOutdated.daemon
  rw [← append_getElem_cons hlength] at hrun
  obtain ⟨y, hy, hasks⟩ := hhelper
  obtain ⟨hopen, hiff⟩ := handedOver_cancelled_iff hrun hy hasks
  exact ⟨_, _, _, (append_getElem_cons hlength).symm, ⟨y, hy, hasks⟩, hopen,
    hiff.2 ⟨hunaware, hprune⟩⟩

/-- A world in which a run is cancelled in one call and asks the helper afterwards, which takes the
request. -/
def AsksAfter (call : String) (d : MemoryDaemon) : Prop :=
  ∃ before x after, (ranUntil call d).1 = before ++ x :: after ∧
    (daemonCall? x).map DaemonCall.toText = some call ∧ CancelledIn before x after ∧
    (∃ y ∈ after, UpdateRequest.asksHelper y.request = true) ∧
    (ranUntil call d).2.1.selfUpdate = .triggered

/-- It is so for each call after the visits: the one to prune, and the two in which the image of the
program's own container is looked up. -/
theorem asksAfter_threeOutdated :
    AsksAfter "prune" threeOutdated.daemon ∧ AsksAfter "image:dockman:1" threeOutdated.daemon ∧
      AsksAfter "registry:dockman:1" threeOutdated.daemon := by
  refine ⟨⟨_, _, _, (append_getElem_cons (n := 19) (by decide +kernel)).symm, ?_, ?_⟩,
    ⟨_, _, _, (append_getElem_cons (n := 21) (by decide +kernel)).symm, ?_, ?_⟩,
    ⟨_, _, _, (append_getElem_cons (n := 22) (by decide +kernel)).symm, ?_, ?_⟩⟩
  · decide +kernel
  · exact ⟨⟨by decide +kernel, by decide +kernel⟩, by decide +kernel, by decide +kernel⟩
  · decide +kernel
  · exact ⟨⟨by decide +kernel, by decide +kernel⟩, by decide +kernel, by decide +kernel⟩
  · decide +kernel
  · exact ⟨⟨by decide +kernel, by decide +kernel⟩, by decide +kernel, by decide +kernel⟩

end UpdateRun

end ContainerFleet
