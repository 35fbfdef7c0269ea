import ContainerFleet.Host.Service
import ContainerFleet.Proofs.Daemon.Identity
import ContainerFleet.Proofs.Daemon.Service
import ContainerFleet.Proofs.Update.Cancellation

/-!
Which containers the runs of a host are over. Main statements: `updatesReferring_iff`, that a run over
the containers of a reference leaves none of them out exactly when every listed container can be
inspected that has to be, and `selects_of_updateById`, that a run over chosen containers is over those
that some selector means.
-/

namespace ContainerFleet

open Program

section Resolving

/-! What the references of listed containers are found out to be. -/

/-- A listed container with its reference, where the daemon inspects containers like this. -/
def ContainerRecord.resolvedBy (look : String → Except DaemonError ContainerDetails)
    (c : ContainerRecord) : Except DaemonError ContainerRecord :=
  if Digest.isImageId c.image then (look c.id).map fun details => c.withReference details.image
  else .ok c

/-- The exchanges in which the references of listed containers are asked for. -/
def inspections (look : String → Except DaemonError ContainerDetails)
    (listed : List ContainerRecord) : List UpdateExchange :=
  (listed.filter fun c => Digest.isImageId c.image).map fun c => said (.inspect c.id) (look c.id)

/-- The containers of a reference among those listed, as far as their references can be found out. -/
def referring (look : String → Except DaemonError ContainerDetails) (reference : String)
    (listed : List ContainerRecord) : List ContainerRecord :=
  listed.filterMap fun c => (c.resolvedBy look).toOption.filter fun c => c.image = reference

def UpdateRequest.isInspection : UpdateRequest → Bool
  | .daemon (.inspect _) => true
  | _ => false

def isInspection (x : UpdateExchange) : Bool :=
  UpdateRequest.isInspection x.request

/-- The inspections with which the exchanges begin are answered like this. -/
def InspectsBy (look : String → Except DaemonError ContainerDetails)
    (trace : List UpdateExchange) : Prop :=
  ∀ x ∈ trace.takeWhile isInspection, ∃ id, x = said (.inspect id) (look id)

variable {look : String → Except DaemonError ContainerDetails} {reference : String}
  {listed before after : List ContainerRecord} {c : ContainerRecord} {trace : List UpdateExchange}

theorem inspections_append :
    inspections look (before ++ after) = inspections look before ++ inspections look after := by
  rw [inspections, List.filter_append, List.map_append]
  rfl

theorem forall_isInspection_inspections : ∀ x ∈ inspections look listed, isInspection x = true := by
  intro x hx
  obtain ⟨c, -, rfl⟩ := List.mem_map.1 hx
  rfl

theorem ContainerRecord.id_of_resolvedBy {found : ContainerRecord}
    (h : c.resolvedBy look = .ok found) : found.id = c.id := by
  unfold ContainerRecord.resolvedBy at h
  split at h
  · cases hdetails : look c.id with
    | error e =>
        rw [hdetails] at h
        cases h
    | ok details =>
        rw [hdetails] at h
        cases h
        rfl
  · cases h
    rfl

theorem referring_cons_of_ok {found : ContainerRecord} (h : c.resolvedBy look = .ok found) :
    referring look reference (c :: listed) =
      if found.image = reference then found :: referring look reference listed
      else referring look reference listed := by
  rw [referring, List.filterMap_cons, h]
  by_cases himage : found.image = reference
  · simp [Except.toOption, Option.filter, himage, referring]
  · simp [Except.toOption, Option.filter, himage, referring]

theorem referring_cons_of_error {e : DaemonError} (h : c.resolvedBy look = .error e) :
    referring look reference (c :: listed) = referring look reference listed := by
  rw [referring, List.filterMap_cons, h]
  rfl

/-- A container keeps its id when its reference is found out, so none is met twice. -/
theorem map_id_referring_sublist :
    ((referring look reference listed).map ContainerRecord.id).Sublist
      (listed.map ContainerRecord.id) := by
  induction listed with
  | nil => exact .slnil
  | cons c listed ih =>
      cases hfound : c.resolvedBy look with
      | error e =>
          rw [referring_cons_of_error hfound]
          exact ih.cons c.id
      | ok found =>
          rw [referring_cons_of_ok hfound]
          split
          · rw [List.map_cons, List.map_cons, ContainerRecord.id_of_resolvedBy hfound]
            exact ih.cons_cons c.id
          · exact ih.cons c.id

theorem eq_look_of_said {id : String} {reply : (DaemonCall.inspect id).Reply}
    (h : ∃ key, said (.inspect id) reply = said (.inspect key) (look key)) : reply = look id := by
  obtain ⟨key, hsaid⟩ := h
  cases hsaid
  rfl

theorem resolves_by {reply : Except DaemonError ContainerRecord}
    (h : UpdateRun.Resolves c trace reply)
    (hlook : ∀ x ∈ trace, ∃ id, x = said (.inspect id) (look id)) :
    c.resolvedBy look = reply ∧ inspections look [c] = trace := by
  cases h with
  | listed himage => simp [ContainerRecord.resolvedBy, inspections, himage]
  | inspected himage details =>
      have hreply := eq_look_of_said (hlook _ (List.mem_singleton_self _))
      simp [ContainerRecord.resolvedBy, inspections, himage, ← hreply, Except.map]
  | failed himage e =>
      have hreply := eq_look_of_said (hlook _ (List.mem_singleton_self _))
      simp [ContainerRecord.resolvedBy, inspections, himage, ← hreply, Except.map]

theorem asksOnly_resolveReference (c : ContainerRecord) :
    AsksOnly (fun q => UpdateRequest.isInspection q = true) c.resolveReference := by
  unfold ContainerRecord.resolveReference
  split
  · have hinspect : AsksOnly (fun q => UpdateRequest.isInspection q = true)
        (UpdateProgram.inspect c.id) := asksOnly_call rfl
    refine hinspect.bind fun details => ?_
    cases details with
    | error e => exact asksOnly_pure _
    | ok details => exact asksOnly_pure _
  · exact asksOnly_pure _

theorem asksOnly_withReference (reference : String) (listed : List ContainerRecord) :
    AsksOnly (fun q => UpdateRequest.isInspection q = true)
      (HostService.withReference reference listed) := by
  induction listed with
  | nil => exact asksOnly_pure _
  | cons c listed ih =>
      refine (asksOnly_resolveReference c).bind fun reply => ?_
      cases reply with
      | error e => exact asksOnly_pure _
      | ok found =>
          refine ih.bind fun rest => ?_
          cases rest with
          | error e => exact asksOnly_pure _
          | ok rest => exact asksOnly_pure _

/-- What the references of listed containers come to: all of them are found out, or it ends at the first
that cannot be. -/
inductive Found (look : String → Except DaemonError ContainerDetails) (reference : String)
    (listed : List ContainerRecord) :
    List UpdateExchange → Except DaemonError (List ContainerRecord) → Prop where
  | all (h : ∀ c ∈ listed, (c.resolvedBy look).isOk = true) :
      Found look reference listed (inspections look listed) (.ok (referring look reference listed))
  | failed {before after : List ContainerRecord} {c : ContainerRecord} {e : DaemonError}
      (hlisted : listed = before ++ c :: after)
      (hbefore : ∀ o ∈ before, (o.resolvedBy look).isOk = true) (hc : c.resolvedBy look = .error e) :
      Found look reference listed (inspections look (before ++ [c])) (.error e)

theorem found_of_runs {found : Except DaemonError (List ContainerRecord)}
    (h : Runs (HostService.withReference reference listed) trace found)
    (hlook : ∀ x ∈ trace, ∃ id, x = said (.inspect id) (look id)) :
    Found look reference listed trace found := by
  induction listed generalizing trace found with
  | nil =>
      obtain ⟨rfl, rfl⟩ := runs_pure_iff.1 h
      exact .all fun _ hc => absurd hc List.not_mem_nil
  | cons c listed ih =>
      obtain ⟨t, u, reply, rfl, hresolve, h⟩ := runs_bind_iff.1 h
      rw [List.forall_mem_append] at hlook
      obtain ⟨hreply, rfl⟩ := resolves_by (UpdateRun.resolves_of_runs hresolve) hlook.1
      cases reply with
      | error e =>
          obtain ⟨rfl, rfl⟩ := runs_pure_iff.1 h
          rw [List.append_nil]
          exact @Found.failed look reference (c :: listed) [] listed c e rfl
            (List.forall_mem_nil _) hreply
      | ok o =>
          obtain ⟨v, w, rest, rfl, hrest, h⟩ := runs_bind_iff.1 h
          have hok : (c.resolvedBy look).isOk = true := by
            rw [hreply]
            rfl
          cases ih hrest (List.forall_mem_append.1 hlook.2).1 with
          | all hall =>
              obtain ⟨rfl, rfl⟩ := runs_pure_iff.1 h
              rw [List.append_nil, ← inspections_append, ← referring_cons_of_ok hreply]
              exact .all (List.forall_mem_cons.2 ⟨hok, hall⟩)
          | failed hlisted hbefore hfailed =>
              obtain ⟨rfl, rfl⟩ := runs_pure_iff.1 h
              rw [List.append_nil, ← inspections_append, hlisted]
              exact .failed rfl (List.forall_mem_cons.2 ⟨hok, hbefore⟩) hfailed

end Resolving

section Meaning

/-- A selector means a container: it is the id or the name, or at least twelve bytes with which the id
starts. -/
def ContainerRecord.IsMeantBy (c : ContainerRecord) (selector : String) : Prop :=
  c.id = selector ∨ c.name = selector ∨
    (12 ≤ selector.utf8ByteSize ∧ selector.toList <+: c.id.toList)

instance (c : ContainerRecord) (selector : String) : Decidable (c.IsMeantBy selector) :=
  inferInstanceAs (Decidable (_ ∨ _ ∨ _ ∧ _))

theorem matchesSelector_iff {c : ContainerRecord} {selector : String} :
    c.matchesSelector selector = true ↔ c.IsMeantBy selector := by
  simp only [ContainerRecord.matchesSelector, Bool.or_eq_true, Bool.and_eq_true, beq_iff_eq,
    decide_eq_true_eq, List.isPrefixOf_iff_prefix, or_assoc]
  rfl

end Meaning

namespace UpdateRun

/-- A run reports its containers one after the other, as far as it comes, and all of them if it is not
cancelled. -/
theorem subjects_of_runs_run {updater : Updater} {host : RunHost} {policy : UpdatePolicy}
    {containers : List ContainerRecord} {trace : List UpdateExchange} {report : UpdateReport}
    (h : Runs (run updater host policy containers) trace report) :
    report.containers.map ContainerReport.subject <+: containers.map ContainerRecord.subject ∧
      (asked true ∉ trace → report.containers.map ContainerReport.subject =
        containers.map ContainerRecord.subject) := by
  obtain ⟨visits, closing, hparts⟩ := exists_runParts h
  rw [hparts.subjects_eq]
  refine ⟨hparts.listed_prefix.map _, fun hnot => ?_⟩
  rw [hparts.trace_eq] at hnot
  have hend : report.cancelled = false := by
    cases hparts.closes with
    | stopped again => exact absurd (List.mem_append_right _ List.mem_cons_self) hnot
    | stoppedLast => exact absurd (List.mem_append_right _ List.mem_cons_self) hnot
    | finished hprune hself => rfl
  rw [hparts.listed_eq hend]

end UpdateRun

namespace HostService

variable {s : HostService} {policy : UpdatePolicy} {listed : List ContainerRecord}
  {trace : List UpdateExchange} {result : Except UpdateError UpdateReport}

section ByReference

variable {look : String → Except DaemonError ContainerDetails} {reference : String}

/-- A run by reference is one over all containers that have the reference, once each and in their order,
and says that there is no such container only if that is so. -/
structure UpdatesReferring (s : HostService) (look : String → Except DaemonError ContainerDetails)
    (reference : String) (policy : UpdatePolicy) (listed : List ContainerRecord)
    (trace : List UpdateExchange) (result : Except UpdateError UpdateReport) : Prop where
  updates : referring look reference listed ≠ [] → ∃ looked rest report,
    trace = looked ++ rest ∧ (∀ x ∈ looked, isInspection x = true) ∧ result = .ok report ∧
      Runs (UpdateRun.run s.updater s.host policy.forced (referring look reference listed)) rest report
  once : ((referring look reference listed).map ContainerRecord.id).Sublist
    (listed.map ContainerRecord.id)
  noMatch : ∀ host selector, result = .error (.noMatch host selector) →
    referring look reference listed = []

/-- What comes of a run by reference once the references were found out. -/
def Chosen (s : HostService) (reference : String) (policy : UpdatePolicy) (trace : List UpdateExchange)
    (result : Except UpdateError UpdateReport) : Except DaemonError (List ContainerRecord) → Prop
  | .error e => trace = [] ∧ result = .error (.daemon e)
  | .ok [] => trace = [] ∧ result = .error (.noMatch s.host.name ("image " ++ reference))
  | .ok containers => ∃ report, result = .ok report ∧
      Runs (UpdateRun.run s.updater s.host policy.forced containers) trace report

theorem exists_report_of_runs_run {containers : List ContainerRecord}
    (h : Runs (s.run policy containers) trace result) :
    ∃ report, result = .ok report ∧
      Runs (UpdateRun.run s.updater s.host policy containers) trace report := by
  obtain ⟨t, u, report, rfl, hrun, h⟩ := runs_bind_iff.1 h
  obtain ⟨rfl, rfl⟩ := runs_pure_iff.1 h
  rw [List.append_nil]
  exact ⟨report, rfl, hrun⟩

theorem Chosen.exists_report {containers : List ContainerRecord}
    (h : Chosen s reference policy trace result (.ok containers)) (hsome : containers ≠ []) :
    ∃ report, result = .ok report ∧
      Runs (UpdateRun.run s.updater s.host policy.forced containers) trace report := by
  cases containers with
  | nil => exact absurd rfl hsome
  | cons c containers => exact h

theorem found_of_runs_updateByImage (hlook : InspectsBy look trace)
    (h : Runs (s.updateByImage reference policy) (said (.list true) (.ok listed) :: trace) result) :
    ∃ looked rest found, trace = looked ++ rest ∧ Found look reference listed looked found ∧
      Chosen s reference policy rest result found := by
  obtain ⟨looked, rest, found, rfl, hfound, h⟩ :=
    runs_bind_iff.1 (UpdateProgram.runs_said_cons_iff.1 h)
  have hinspected : ∀ x ∈ looked, isInspection x = true := asksOnly_withReference _ _ _ _ hfound
  have hlooked : ∀ x ∈ looked, ∃ id, x = said (.inspect id) (look id) := by
    intro x hx
    apply hlook
    rw [List.takeWhile_append_of_pos hinspected]
    exact List.mem_append_left _ hx
  refine ⟨looked, rest, found, rfl, found_of_runs hfound hlooked, ?_⟩
  cases found with
  | error e => exact runs_pure_iff.1 h
  | ok found =>
      cases found with
      | nil => exact runs_pure_iff.1 h
      | cons c containers => exact exists_report_of_runs_run h

/-- A run by reference is over all containers that have it exactly when each listed container that has to
be inspected for that can be, or none has it. Otherwise it ends with the first that cannot be
inspected, whatever those before it are. -/
theorem updatesReferring_iff (hlook : InspectsBy look trace)
    (h : Runs (s.updateByImage reference policy) (said (.list true) (.ok listed) :: trace) result) :
    (UpdatesReferring s look reference policy listed trace result ↔
      (∀ c ∈ listed, (c.resolvedBy look).isOk = true) ∨ referring look reference listed = []) ∧
      (¬ (∀ c ∈ listed, (c.resolvedBy look).isOk = true) →
        ∃ before c after e, listed = before ++ c :: after ∧
          (∀ o ∈ before, (o.resolvedBy look).isOk = true) ∧ c.resolvedBy look = .error e ∧
          trace = inspections look (before ++ [c]) ∧ result = .error (.daemon e)) := by
  obtain ⟨looked, rest, found, rfl, hfound, hchosen⟩ := found_of_runs_updateByImage hlook h
  cases hfound with
  | all hall =>
      refine ⟨iff_of_true ⟨fun hsome => ?_, map_id_referring_sublist, ?_⟩ (.inl hall), absurd hall⟩
      · obtain ⟨report, hresult, hrun⟩ := hchosen.exists_report hsome
        exact ⟨_, rest, report, rfl, forall_isInspection_inspections, hresult, hrun⟩
      · rintro host selector rfl
        refine Decidable.byContradiction fun hsome => ?_
        obtain ⟨report, hresult, -⟩ := hchosen.exists_report hsome
        cases hresult
  | @failed before after c e hlisted hbefore hc =>
      obtain ⟨rfl, rfl⟩ := hchosen
      rw [List.append_nil]
      have hnot : ¬ ∀ c ∈ listed, (c.resolvedBy look).isOk = true := by
        intro hall
        have hok := hall c (hlisted ▸ List.mem_append_right before List.mem_cons_self)
        rw [hc] at hok
        cases hok
      refine ⟨⟨fun hupdates => .inr ?_, fun hnone => ?_⟩,
        fun _ => ⟨before, c, after, e, hlisted, hbefore, hc, rfl, rfl⟩⟩
      · refine Decidable.byContradiction fun hsome => ?_
        obtain ⟨looked, rest, report, -, -, hresult, -⟩ := hupdates.updates hsome
        cases hresult
      · have hempty := hnone.resolve_left hnot
        exact ⟨absurd hempty, map_id_referring_sublist, fun _ _ _ => hempty⟩

/-- A daemon without containers, but for its listing and what it answers to inspections. -/
def showing (listed : List ContainerRecord) (look : String → Except DaemonError ContainerDetails)
    (q : UpdateRequest) (_ : Unit) : q.Reply × Unit :=
  match q with
  | .daemon (.list _) => (.ok listed, ())
  | .daemon (.inspect id) => (look id, ())
  | q => ((MemoryDaemon.serve q .empty).1, ())

/-- What is said to such a daemon, and what comes of it. -/
abbrev shown {α : Type} (p : UpdateProgram α) (listed : List ContainerRecord)
    (look : String → Except DaemonError ContainerDetails) : List UpdateExchange × α × Unit :=
  p.converse (showing listed look) ()

theorem inspectsBy_shown {α : Type} (p : UpdateProgram α) :
    InspectsBy look (shown p listed look).1 := by
  intro x hx
  have hinspection := List.all_eq_true.1 List.all_takeWhile x hx
  refine forall_mem_converse (I := updateInterface)
    (P := fun x => isInspection x = true → ∃ id, x = said (.inspect id) (look id))
    (showing listed look) ?_ p () x ((List.takeWhile_sublist _).subset hx) hinspection
  intro q s hq
  change UpdateRequest at q
  cases q with
  | daemon call => cases call <;> first | exact ⟨_, rfl⟩ | cases hq
  | _ => cases hq

theorem exists_runs_shown (s : HostService) (reference : String) (policy : UpdatePolicy)
    (listed : List ContainerRecord) (look : String → Except DaemonError ContainerDetails) :
    ∃ trace, InspectsBy look trace ∧
      Runs (s.updateByImage reference policy) (said (.list true) (.ok listed) :: trace)
        (shown (s.updateByImage reference policy) listed look).2.1 := by
  have hrun := runs_converse (I := updateInterface) (showing listed look)
    (s.updateByImage reference policy) ()
  exact ⟨_, inspectsBy_shown _, hrun⟩

/-- How a daemon answers inspections. -/
def inspectedBy (d : MemoryDaemon) (id : String) : Except DaemonError ContainerDetails :=
  (d.perform 0 (.inspect id)).1

/-- Two containers of one reference, which the first runs the newer image of. The second is listed by
the id of its image. -/
def movedOn : MemoryDaemon :=
  { MemoryDaemon.empty with
    containers := [{ MemoryDaemon.web [] with imageId := "sha256:new" },
      { MemoryDaemon.web [] with id := "c2", name := "job" }]
    images := [("app:1", ⟨"sha256:new", ["app@sha256:n"]⟩)] }

/-- The host on which both are found. -/
def here : HostService := ⟨⟨"here", .local⟩, ⟨"", none, .zero⟩, .zero⟩

theorem updatesReferring_movedOn :
    ∃ trace result, InspectsBy (inspectedBy movedOn) trace ∧
      Runs (here.updateByImage "app:1" .plain)
        (said (.list true) (.ok (movedOn.list true)) :: trace) result ∧
      (referring (inspectedBy movedOn) "app:1" (movedOn.list true)).map ContainerRecord.id =
        ["c1", "c2"] ∧
      UpdatesReferring here (inspectedBy movedOn) "app:1" .plain (movedOn.list true) trace result := by
  obtain ⟨trace, hlook, hrun⟩ :=
    exists_runs_shown here "app:1" .plain (movedOn.list true) (inspectedBy movedOn)
  exact ⟨trace, _, hlook, hrun, by decide +kernel,
    (updatesReferring_iff hlook hrun).1.2 (.inl (by decide +kernel))⟩

/-- The second container is removed after it was listed, and the run leaves out the first one too. -/
theorem exists_not_updatesReferring :
    ∃ look trace e, InspectsBy look trace ∧
      Runs (here.updateByImage "app:1" .plain) (said (.list true) (.ok (movedOn.list true)) :: trace)
        (.error (.daemon e)) ∧
      (referring look "app:1" (movedOn.list true)).map ContainerRecord.id = ["c1"] ∧
      ¬ UpdatesReferring here look "app:1" .plain (movedOn.list true) trace (.error (.daemon e)) := by
  let look := inspectedBy { movedOn with containers := movedOn.containers.take 1 }
  obtain ⟨trace, hlook, hrun⟩ := exists_runs_shown here "app:1" .plain (movedOn.list true) look
  have hresult : (shown (here.updateByImage "app:1" .plain) (movedOn.list true) look).2.1 =
      .error (.daemon (MemoryDaemon.noContainer "c2")) := by decide +kernel
  have hids : (referring look "app:1" (movedOn.list true)).map ContainerRecord.id = ["c1"] := by
    decide +kernel
  rw [hresult] at hrun
  refine ⟨look, trace, _, hlook, hrun, hids, fun hupdates => ?_⟩
  have hsome : referring look "app:1" (movedOn.list true) ≠ [] := by
    rintro hempty
    rw [hempty] at hids
    cases hids
  obtain ⟨looked, rest, report, -, -, hreport, -⟩ := hupdates.updates hsome
  cases hreport

end ByReference

section BySelector

variable {selectors : List String}

theorem unmatched_eq : unmatched selectors listed =
    selectors.filter fun selector => ∀ c ∈ listed, ¬ c.IsMeantBy selector := by
  refine List.filter_congr fun selector _ => ?_
  rw [Bool.eq_iff_iff, decide_eq_true_eq, Bool.not_eq_true', List.any_eq_false]
  simp only [matchesSelector_iff]

theorem selected_eq : selected selectors listed =
    listed.filter fun c => ∃ selector ∈ selectors, c.IsMeantBy selector := by
  refine List.filter_congr fun c _ => ?_
  rw [Bool.eq_iff_iff, decide_eq_true_eq, List.any_eq_true]
  simp only [matchesSelector_iff]

theorem unmatched_eq_nil_iff : unmatched selectors listed = [] ↔
    ∀ selector ∈ selectors, ∃ c ∈ listed, c.IsMeantBy selector := by
  rw [unmatched_eq, List.filter_eq_nil_iff]
  simp

/-- A run over chosen containers is refused when some selector means none, and says which. Otherwise it
reports the containers that some selector means, once each and in their order, unless it is
cancelled, and it is the same with the selectors in another order or more often. -/
structure Selects (s : HostService) (selectors : List String) (policy : UpdatePolicy)
    (listed : List ContainerRecord) (trace : List UpdateExchange)
    (result : Except UpdateError UpdateReport) : Prop where
  refused : (∃ selector ∈ selectors, ∀ c ∈ listed, ¬ c.IsMeantBy selector) →
    trace = [] ∧ result = .error (.noMatch s.host.name
      (", ".intercalate (selectors.filter fun selector => ∀ c ∈ listed, ¬ c.IsMeantBy selector)))
  reports : (∀ selector ∈ selectors, ∃ c ∈ listed, c.IsMeantBy selector) →
    ∃ report, result = .ok report ∧ (report.containers.map ContainerReport.id).Nodup ∧
      (UpdateRun.asked true ∉ trace → report.containers.map ContainerReport.subject =
        (listed.filter fun c => ∃ selector ∈ selectors, c.IsMeantBy selector).map
          ContainerRecord.subject)
  unordered : (∀ selector ∈ selectors, ∃ c ∈ listed, c.IsMeantBy selector) →
    ∀ others : List String, (∀ selector, selector ∈ others ↔ selector ∈ selectors) →
      Runs (s.updateById others policy) (said (.list true) (.ok listed) :: trace) result

theorem runs_updateById_iff :
    Runs (s.updateById selectors policy) (said (.list true) (.ok listed) :: trace) result ↔
      if unmatched selectors listed = [] then
        Runs (s.run policy.forced (selected selectors listed)) trace result
      else trace = [] ∧ result = .error
        (.noMatch s.host.name (", ".intercalate (unmatched selectors listed))) := by
  refine UpdateProgram.runs_said_cons_iff.trans ?_
  simp only [List.isEmpty_iff]
  split
  · exact Iff.rfl
  · exact runs_pure_iff

/-- Whatever the world replies, a run over chosen containers is over those that were asked for. -/
theorem selects_of_updateById (hids : (listed.map ContainerRecord.id).Nodup)
    (h : Runs (s.updateById selectors policy) (said (.list true) (.ok listed) :: trace) result) :
    Selects s selectors policy listed trace result := by
  have hruns := runs_updateById_iff.1 h
  refine ⟨fun hnone => ?_, fun hall => ?_, fun hall others hsame => ?_⟩
  · rw [if_neg ?_, unmatched_eq] at hruns
    · exact hruns
    · rw [unmatched_eq_nil_iff]
      rintro hall
      obtain ⟨selector, hmem, hnot⟩ := hnone
      obtain ⟨c, hc, hmeant⟩ := hall selector hmem
      exact hnot c hc hmeant
  · rw [if_pos (unmatched_eq_nil_iff.2 hall)] at hruns
    obtain ⟨report, rfl, hrun⟩ := exists_report_of_runs_run hruns
    obtain ⟨hfront, hsubjects⟩ := UpdateRun.subjects_of_runs_run hrun
    refine ⟨report, rfl, ?_, by rwa [selected_eq] at hsubjects⟩
    have hreported := (hfront.map Prod.fst).sublist
    rw [List.map_map, List.map_map] at hreported
    exact (hreported.trans (List.filter_sublist.map _)).nodup hids
  · have hselected : selected others listed = selected selectors listed := by
      simp only [selected_eq, hsame]
    refine runs_updateById_iff.2 ?_
    rw [if_pos (unmatched_eq_nil_iff.2 fun selector hmem => hall selector ((hsame selector).1 hmem)),
      hselected]
    rwa [if_pos (unmatched_eq_nil_iff.2 hall)] at hruns

/-- Three containers, of which the first has a long id. -/
def threeListed : List ContainerRecord :=
  [⟨"0123456789abcdef", "web", "app:1", "", [], none⟩, ⟨"c2", "job", "app:1", "", [], none⟩,
    ⟨"c3", "db", "db:1", "", [], none⟩]

/-- Two of them are asked for, one by its name twice, and the other one by the front of its id. -/
theorem selects_of_updateById_threeListed :
    ∃ trace result, Runs (here.updateById ["job", "0123456789ab", "job"] .plain)
        (said (.list true) (.ok threeListed) :: trace) result ∧
      (result.toOption.map fun report => report.containers.map ContainerReport.name) =
        some ["web", "job"] ∧
      Selects here ["job", "0123456789ab", "job"] .plain threeListed trace result := by
  have hrun := runs_converse (I := updateInterface) (showing threeListed (inspectedBy .empty))
    (here.updateById ["job", "0123456789ab", "job"] .plain) ()
  exact ⟨_, _, hrun, by decide +kernel, selects_of_updateById (by decide) hrun⟩

end BySelector

end HostService

end ContainerFleet
