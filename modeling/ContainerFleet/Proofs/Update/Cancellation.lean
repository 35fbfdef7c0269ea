import ContainerFleet.Proofs.Update.Parts
import ContainerFleet.Proofs.Update.Recording

/-!
Update runs that are cancelled, whenever that is and whatever the world replies. Main statement:
`run_cancelled`, that a cancelled run ends with the container it is at.
-/

namespace ContainerFleet

/-- Whether an exchange shows that the run has been cancelled by its end. -/
def showsCancelled : UpdateExchange → Bool
  | ⟨.isCancelled, cancelled⟩ => cancelled
  | ⟨.pull _, reply⟩ => reply.isNone
  | _ => false

/-- Whether an exchange shows that the run has not been cancelled by its end. -/
def showsOpen : UpdateExchange → Bool
  | ⟨.isCancelled, cancelled⟩ => !cancelled
  | _ => false

/-- The run is cancelled in the exchange `x`, or between it and the exchange before: no earlier
exchange shows that it is, and no later one that it is not. -/
structure CancelledIn (before : List UpdateExchange) (x : UpdateExchange)
    (after : List UpdateExchange) : Prop where
  unaware : ∀ y ∈ before, showsCancelled y = false
  aware : ∀ y ∈ x :: after, showsOpen y = false

theorem CancelledIn.asked_not_mem {before after : List UpdateExchange} {x : UpdateExchange}
    (h : CancelledIn before x after) : UpdateRun.asked false ∉ x :: after := by
  intro hmem
  cases h.aware (UpdateRun.asked false) hmem

/-- Whether a call is the one to prune. -/
def DaemonCall.isPrune : DaemonCall → Bool
  | .prune => true
  | _ => false

theorem DaemonCall.isPrune_iff {call : DaemonCall} : call.isPrune = true ↔ call = .prune := by
  cases call <;> simp [isPrune]

instance (calls : List DaemonCall) : Decidable (DaemonCall.prune ∈ calls) :=
  decidable_of_iff (calls.any DaemonCall.isPrune = true) (by simp [DaemonCall.isPrune_iff])

/-- An exchange of a sequence that is put together from parts is in one of the parts, or in what
follows them. -/
theorem exists_of_flatMap_append_eq {α β : Type} {f : α → List β} {parts : List α}
    {closing before after : List β} {x : β} (h : parts.flatMap f ++ closing = before ++ x :: after) :
    (∃ earlier a later start rest, parts = earlier ++ a :: later ∧ f a = start ++ x :: rest ∧
      before = earlier.flatMap f ++ start ∧ after = rest ++ (later.flatMap f ++ closing)) ∨
    ∃ ended, before = parts.flatMap f ++ ended ∧ closing = ended ++ x :: after := by
  induction parts generalizing before with
  | nil => exact .inr ⟨before, rfl, h⟩
  | cons a parts ih =>
      rw [List.flatMap_cons, List.append_assoc, List.append_eq_append_iff] at h
      -- The first part ends before the exchange, or contains it, or ends just there.
      rcases h with ⟨more, rfl, hrest⟩ | ⟨more, hfirst, hrest⟩
      · rcases ih hrest with ⟨earlier, b, later, start, rest, rfl, hb, rfl, rfl⟩ | ⟨ended, rfl, rfl⟩
        · exact .inl ⟨a :: earlier, b, later, start, rest, rfl, hb, by simp, rfl⟩
        · exact .inr ⟨ended, by simp, rfl⟩
      · cases more with
        | nil =>
            rw [List.append_nil] at hfirst
            have hnext : parts.flatMap f ++ closing = [] ++ x :: after := hrest.symm
            rcases ih hnext with
              ⟨earlier, b, later, start, rest, rfl, hb, hnil, rfl⟩ | ⟨ended, hnil, rfl⟩
            · refine .inl ⟨a :: earlier, b, later, start, rest, rfl, hb, ?_, rfl⟩
              rw [List.flatMap_cons, List.append_assoc, ← hnil, List.append_nil, hfirst]
            · refine .inr ⟨ended, ?_, rfl⟩
              rw [List.flatMap_cons, List.append_assoc, ← hnil, List.append_nil, hfirst]
        | cons y more =>
            rw [List.cons_append, List.cons.injEq] at hrest
            obtain ⟨rfl, rfl⟩ := hrest
            exact .inl ⟨[], a, parts, before, more, rfl, hfirst, rfl, rfl⟩

/-- The id and the name of the container that an entry is about. -/
def ContainerReport.subject (e : ContainerReport) : String × String :=
  (e.id, e.name)

/-- The id and the name of a container. -/
def ContainerRecord.subject (c : ContainerRecord) : String × String :=
  (c.id, c.name)

namespace UpdateRun

open Program

variable {updater : Updater} {host : RunHost} {policy : UpdatePolicy}
  {containers : List ContainerRecord} {visits : List Visit}
  {closing trace before after : List UpdateExchange} {x : UpdateExchange} {report : UpdateReport}

theorem Resolves.subject_eq {listed c : ContainerRecord} {t : List UpdateExchange}
    (h : Resolves listed t (.ok c)) : c.subject = listed.subject := by
  cases h <;> rfl

theorem Visited.subject_eq {listed : ContainerRecord} {t : List UpdateExchange} {done : Step}
    (h : Visited updater host policy listed t done) : done.report.subject = listed.subject := by
  cases h with
  | unresolved h => rfl
  | skipped h _ => exact h.subject_eq
  | deferred h _ => exact h.subject_eq
  | processed h _ _ => exact h.subject_eq

/-- The entries of a report are about the containers that were visited. -/
theorem RunParts.subjects_eq
    (h : RunParts updater host policy containers visits closing trace report) :
    report.containers.map ContainerReport.subject =
      (visits.map Visit.listed).map ContainerRecord.subject := by
  rw [h.containers_eq, List.map_map, List.map_map]
  apply List.map_congr_left
  intro v hv
  exact (visited_of_runs (h.runs v hv)).subject_eq

/-- Where a run is cancelled: in its last visit, which is all that is gone on with before the run
is closed, or after its visits. -/
inductive CancelledAt (visits : List Visit) (closing before : List UpdateExchange)
    (x : UpdateExchange) (after : List UpdateExchange) : Prop where
  | visit {earlier : List Visit} {v : Visit} {start rest : List UpdateExchange}
      (hlast : visits = earlier ++ [v]) (htrace : v.trace = start ++ x :: rest)
      (hbefore : before = earlier.flatMap Visit.exchanges ++ asked false :: start)
      (hafter : after = rest ++ closing)
  | closing {ended : List UpdateExchange}
      (hbefore : before = visits.flatMap Visit.exchanges ++ ended)
      (hclosing : closing = ended ++ x :: after)

/-- No visit is begun once the run was cancelled. -/
theorem RunParts.cancelledAt
    (h : RunParts updater host policy containers visits closing (before ++ x :: after) report)
    (hcancel : CancelledIn before x after) : CancelledAt visits closing before x after := by
  rcases exists_of_flatMap_append_eq h.trace_eq.symm with
    ⟨earlier, v, later, start, rest, rfl, hv, rfl, rfl⟩ | ⟨ended, rfl, rfl⟩
  · cases start with
    | nil =>
        cases hv
        exact absurd List.mem_cons_self hcancel.asked_not_mem
    | cons y start =>
        obtain ⟨rfl, htrace⟩ := List.cons.inj hv
        cases later with
        | nil => exact .visit rfl htrace rfl rfl
        | cons next later => exact absurd (by simp [Visit.exchanges]) hcancel.asked_not_mem
  · exact .closing rfl rfl

theorem Prunes.exists_head {t : List UpdateExchange} {summary : PruneSummary}
    (h : Prunes host t summary) : ∃ reply rest, t = said .prune reply :: rest := by
  cases h <;> exact ⟨_, _, rfl⟩

/-- What is over by a later exchange than the question before pruning includes the call to prune. -/
theorem prune_mem_of_append_eq {ended more : List UpdateExchange} {reply : DaemonCall.prune.Reply}
    (h : asked false :: said .prune reply :: more = ended ++ x :: after) (hx : x ≠ asked false) :
    DaemonCall.prune ∈ daemonCalls (ended ++ [x]) := by
  have hended : ended ≠ [] := by
    rintro rfl
    exact hx (List.cons.inj h).1.symm
  have hlength : 0 < ended.length := List.length_pos_iff.2 hended
  have hstart : [asked false, said .prune reply] <+: ended ++ [x] := by
    have hall : ended ++ [x] <+: ended ++ x :: after := ⟨after, by simp⟩
    apply List.prefix_of_prefix_length_le ⟨more, h⟩ hall
    simp only [List.length_append, List.length_cons, List.length_nil]
    omega
  exact (hstart.sublist.filterMap daemonCall?).mem (by simp [daemonCall?, asked, said])

/-- A run that is cancelled before images are pruned is closed without a call to the daemon. -/
theorem RunParts.stopped
    (h : RunParts updater host policy containers visits closing (before ++ x :: after) report)
    (hcancel : CancelledIn before x after)
    (hprune : DaemonCall.prune ∉ daemonCalls (before ++ [x])) :
    report.cancelled = true ∧ report.prune = none ∧
      report.selfUpdate = selfCancelled report.containers ∧ daemonCalls closing = [] := by
  have hat := h.cancelledAt hcancel
  cases h.closes with
  | stopped again => exact ⟨rfl, rfl, rfl, rfl⟩
  | stoppedLast => exact ⟨rfl, rfl, rfl, rfl⟩
  | finished hpruned hself =>
      cases hat with
      | visit hlast htrace hbefore hafter => exact absurd (by simp [hafter]) hcancel.asked_not_mem
      | closing hbefore hclosing =>
          obtain ⟨reply, more, rfl⟩ := hpruned.exists_head
          have hx : x ≠ asked false := by
            rintro rfl
            exact hcancel.asked_not_mem List.mem_cons_self
          refine absurd ?_ hprune
          rw [hbefore, List.append_assoc, daemonCalls_append]
          exact List.mem_append_right _ (prune_mem_of_append_eq hclosing hx)

theorem pulling_not_mem_of_lookups {t : List UpdateExchange} (h : Lookups t) (image : String)
    (reply : Option (Except DaemonError Unit)) : pulling image reply ∉ t := by
  intro hmem
  cases h _ hmem

theorem pulling_not_mem_of_replace {stopTimeout : Duration} {key reference : String}
    {t : List UpdateExchange} {result : Except ReplaceError Replaced}
    (h : Runs (Replacement.replace stopTimeout key reference) t result) (image : String)
    (reply : Option (Except DaemonError Unit)) : pulling image reply ∉ t :=
  fun hmem => Replacement.keepsTo_of_runs h _ hmem

theorem Handles.abandoned_of_mem {c : ContainerRecord} {t : List UpdateExchange}
    {outcome : Outcome} {image : String} (h : Handles updater host policy c t outcome)
    (hpull : pulling image none ∈ t) :
    outcome = .failed "cancelled during pull" ∧
      ∀ call ∈ daemonCalls t, call.changesContainers = false := by
  cases h with
  | notCompared h => exact absurd hpull (pulling_not_mem_of_lookups (lookups_of_looksUp h) _ _)
  | upToDate h _ => exact absurd hpull (pulling_not_mem_of_lookups (lookups_of_looksUp h) _ _)
  | recorded h _ _ now saved =>
      rcases List.mem_append.1 hpull with hpull | hpull
      · exact absurd hpull (pulling_not_mem_of_lookups (lookups_of_looksUp h) _ _)
      · rcases List.mem_cons.1 hpull with heq | hpull
        · cases heq
        · cases List.mem_singleton.1 hpull
  | abandoned h _ _ =>
      refine ⟨rfl, fun call hcall => ?_⟩
      obtain ⟨reply, hsaid⟩ := exists_said_mem hcall
      rcases List.mem_append.1 hsaid with hsaid | hsaid
      · exact (lookups_of_looksUp h).looks _ hsaid
      · cases List.mem_singleton.1 hsaid
  | notPulled h _ _ e =>
      rcases List.mem_append.1 hpull with hpull | hpull
      · exact absurd hpull (pulling_not_mem_of_lookups (lookups_of_looksUp h) _ _)
      · cases List.mem_singleton.1 hpull
  | pulled h _ _ hreplace =>
      rcases List.mem_append.1 hpull with hpull | hpull
      · exact absurd hpull (pulling_not_mem_of_lookups (lookups_of_looksUp h) _ _)
      · rcases List.mem_cons.1 hpull with heq | hpull
        · cases heq
        · exact absurd hpull (pulling_not_mem_of_replace hreplace _ _)
  | superseded h _ _ _ hreplace =>
      rcases List.mem_append.1 hpull with hpull | hpull
      · exact absurd hpull (pulling_not_mem_of_lookups (lookups_of_looksUp h) _ _)
      · exact absurd hpull (pulling_not_mem_of_replace hreplace _ _)

/-- A visit in which a pull is abandoned ends so, and changes nothing. -/
theorem Visited.abandoned_of_mem {listed : ContainerRecord} {t : List UpdateExchange} {done : Step}
    {image : String} (h : Visited updater host policy listed t done)
    (hpull : pulling image none ∈ t) :
    done.report.outcome = .failed "cancelled during pull" ∧
      ∀ call ∈ daemonCalls t, call.changesContainers = false := by
  cases h with
  | unresolved h => exact absurd hpull (pulling_not_mem_of_lookups h.lookups _ _)
  | skipped h _ => exact absurd hpull (pulling_not_mem_of_lookups h.lookups _ _)
  | deferred h _ => exact absurd hpull (pulling_not_mem_of_lookups h.lookups _ _)
  | @processed t u c outcome h _ hprocess =>
      have hu : pulling image none ∈ u :=
        (List.mem_append.1 hpull).resolve_left (pulling_not_mem_of_lookups h.lookups _ _)
      obtain ⟨houtcome, hcalls⟩ := (handles_of_runs hprocess).abandoned_of_mem hu
      refine ⟨houtcome, ?_⟩
      rw [daemonCalls_append]
      refine List.forall_mem_append.2 ⟨fun call hcall => ?_, hcalls⟩
      obtain ⟨reply, hsaid⟩ := exists_said_mem hcall
      exact h.lookups.looks _ hsaid

/-- An update run that is cancelled in some exchange, over any containers and under any policy,
whatever the world replies. Its entries are about the containers up to one of them, and about all
unless the report says that the run was cancelled. The exchange is in the last visit or comes after
all visits, so no other container is begun with, and what still follows closes the run. When images
are not pruned by then, the report says that the run was cancelled, the daemon is not called after
the last visit, images are not pruned at all, and a container that has to wait is given up. A visit
whose pull is abandoned fails, and asks the daemon for no change. -/
theorem run_cancelled (hrun : Runs (run updater host policy containers) (before ++ x :: after) report)
    (hcancel : CancelledIn before x after) :
    report.containers.map ContainerReport.subject <+: containers.map ContainerRecord.subject ∧
      (report.cancelled = false →
        report.containers.map ContainerReport.subject =
          containers.map ContainerRecord.subject) ∧
      ∃ visits closing,
        RunParts updater host policy containers visits closing (before ++ x :: after) report ∧
        CancelledAt visits closing before x after ∧
        (DaemonCall.prune ∉ daemonCalls (before ++ [x]) →
          report.cancelled = true ∧ daemonCalls closing = [] ∧
          DaemonCall.prune ∉ daemonCalls (before ++ x :: after) ∧ report.prune = none ∧
          report.selfUpdate = selfCancelled report.containers) ∧
        ∀ v ∈ visits, ∀ image, pulling image none ∈ v.trace →
          v.report.outcome = .failed "cancelled during pull" ∧
            ∀ call ∈ daemonCalls v.trace, call.changesContainers = false := by
  obtain ⟨visits, closing, h⟩ := exists_runParts hrun
  rw [h.subjects_eq]
  refine ⟨h.listed_prefix.map _, fun hend => by rw [h.listed_eq hend], visits, closing, h,
    h.cancelledAt hcancel, fun hprune => ?_, fun v hv image hpull => ?_⟩
  · obtain ⟨hcancelled, hpruned, hself, hclosing⟩ := h.stopped hcancel hprune
    have hnone : DaemonCall.prune ∉ daemonCalls (before ++ x :: after) := by
      rw [h.trace_eq, daemonCalls_append, hclosing, List.append_nil]
      exact h.prune_not_mem
    exact ⟨hcancelled, hclosing, hnone, hpruned, hself⟩
  · exact (visited_of_runs (h.runs v hv)).abandoned_of_mem hpull

/-- A run over the containers of a daemon on this machine, which is cancelled in a call. The helper
takes every request. -/
def ranUntil (call : String) (d : MemoryDaemon) :
    List UpdateExchange × UpdateReport × UpdateWorld MemoryStore :=
  (run ⟨"http://helper/", none, .zero⟩ ⟨"local", .local⟩ .plain (d.list true)).converse
    (UpdateWorld.handle ⟨MemoryStore.handle⟩)
    { UpdateWorld.around d [] with
      cancelOn := [.exact call], network := fun _ => ⟨.ok 200, .zero⟩ }

theorem runs_ranUntil (call : String) (d : MemoryDaemon) :
    Runs (run ⟨"http://helper/", none, .zero⟩ ⟨"local", .local⟩ .plain (d.list true))
      (ranUntil call d).1 (ranUntil call d).2.1 :=
  runs_converse (I := updateInterface) _ _ _

/-- The program's own container waits, the pull for the next one is abandoned, and the last one is
not visited any more. -/
theorem run_cancelled_threeOutdated :
    let ended := ranUntil "pull:app:1" threeOutdated.daemon
    ∃ before x after, ended.1 = before ++ x :: after ∧ CancelledIn before x after ∧
      DaemonCall.prune ∉ daemonCalls (before ++ [x]) ∧ showsCancelled x = true ∧
      ended.2.1.cancelled = true ∧
      ended.2.1.containers.map ContainerReport.outcome =
        [.deferredSelf, .failed "cancelled during pull"] := by
  intro ended
  have hlength : 4 < ended.1.length := by decide +kernel
  have hshows : showsCancelled ended.1[4] = true := by decide +kernel +revert
  have hprune : DaemonCall.prune ∉ daemonCalls (ended.1.take 4 ++ [ended.1[4]]) := by
    decide +kernel +revert
  have hcancel : CancelledIn (ended.1.take 4) ended.1[4] (ended.1.drop 5) := by
    constructor <;> decide +kernel +revert
  have hrun := runs_ranUntil "pull:app:1" threeOutdated.daemon
  rw [← append_getElem_cons hlength] at hrun
  obtain ⟨-, -, visits, closing, -, -, hstopped, -⟩ := run_cancelled hrun hcancel
  exact ⟨_, _, _, (append_getElem_cons hlength).symm, hcancel, hprune, hshows,
    (hstopped hprune).1, by decide +kernel⟩

end UpdateRun

end ContainerFleet
