import ContainerFleet.Proofs.Daemon.Identity
import ContainerFleet.Proofs.Update.Health

/-!
The order in which a replacement calls the daemon, whatever the daemon answers. `Protocol` lists the
conversations that are allowed, each with the result that it ends in. Main statements:
`runs_replace_iff`, that these are the conversations of `replace`, and `replace_protocol`, that in
all of them the old container is removed last.
-/

namespace ContainerFleet.Replacement

open Program UpdateProgram MemoryDaemon

/-- The end of a rollback: the old container is started again, and the result says whether that
succeeded. -/
inductive Restart (old : ContainerDetails) (cause : ReplaceFailure) :
    List UpdateExchange → ReplaceError → Prop where
  | again : Restart old cause [said (.start old.id) (.ok ())] (.rolledBack old.name cause)
  | failed (e : DaemonError) :
      Restart old cause [said (.start old.id) (.error e)] (.rollbackFailed old.name cause e)

/-- The exchanges of the health check of a replacement. Of the daemon it asks one inspection of the
replacement at most. -/
structure Checked (old : ContainerDetails) (newId : String) (trace : List UpdateExchange)
    (verdict : Except HealthError Unit) : Prop where
  runs : Runs (Health.check newId (LabelSet.ofRaw old.labels)) trace verdict
  calls : daemonCalls trace = [] ∨ daemonCalls trace = [.inspect newId]

/-- What follows the inspection of a container, with the results. One that does not run is removed
and created anew. One that runs is stopped, its replacement is created under a temporary name,
started and checked, and then the old one is removed and the replacement renamed; from the point of
failure on the replacement is removed if it was created, and the old one is started. -/
inductive Course (stopTimeout : Duration) (image : String) (old : ContainerDetails) :
    List UpdateExchange → Except ReplaceError Replaced → Prop where
  | notRemoved (hstopped : old.running = false) (e : DaemonError) :
      Course stopTimeout image old [said (.remove old.id) (.error e)]
        (.error (.step .remove old.name e))
  | notRecreated (hstopped : old.running = false) (e : DaemonError) :
      Course stopTimeout image old
        [said (.remove old.id) (.ok ()),
          said (.create old.name (old.spec.withImage image)) (.error e)]
        (.error (.step .create old.name e))
  | recreated (hstopped : old.running = false) (newId : String) :
      Course stopTimeout image old
        [said (.remove old.id) (.ok ()),
          said (.create old.name (old.spec.withImage image)) (.ok newId)]
        (.ok ⟨old.id, newId, false⟩)
  | notStopped (hrunning : old.running = true) (e : DaemonError) :
      Course stopTimeout image old [said (.stop old.id stopTimeout) (.error e)]
        (.error (.step .stop old.name e))
  | notCreated (hrunning : old.running = true) (e : DaemonError)
      {last : List UpdateExchange} {err : ReplaceError} (hlast : Restart old (.create e) last err) :
      Course stopTimeout image old
        ([said (.stop old.id stopTimeout) (.ok ()),
          said (.create (temporaryName old.name) (old.spec.withImage image)) (.error e)] ++ last)
        (.error err)
  | notStarted (hrunning : old.running = true) (newId : String) (e : DaemonError)
      (removed : (DaemonCall.remove newId).Reply)
      {last : List UpdateExchange} {err : ReplaceError} (hlast : Restart old (.start e) last err) :
      Course stopTimeout image old
        ([said (.stop old.id stopTimeout) (.ok ()),
          said (.create (temporaryName old.name) (old.spec.withImage image)) (.ok newId),
          said (.start newId) (.error e)] ++ said (.remove newId) removed :: last)
        (.error err)
  | unhealthy (hrunning : old.running = true) (newId : String)
      {check : List UpdateExchange} {e : HealthError} (hcheck : Checked old newId check (.error e))
      (removed : (DaemonCall.remove newId).Reply)
      {last : List UpdateExchange} {err : ReplaceError} (hlast : Restart old (.health e) last err) :
      Course stopTimeout image old
        ([said (.stop old.id stopTimeout) (.ok ()),
          said (.create (temporaryName old.name) (old.spec.withImage image)) (.ok newId),
          said (.start newId) (.ok ())] ++ check ++ said (.remove newId) removed :: last)
        (.error err)
  | oldNotRemoved (hrunning : old.running = true) (newId : String)
      {check : List UpdateExchange} (hcheck : Checked old newId check (.ok ())) (e : DaemonError) :
      Course stopTimeout image old
        ([said (.stop old.id stopTimeout) (.ok ()),
          said (.create (temporaryName old.name) (old.spec.withImage image)) (.ok newId),
          said (.start newId) (.ok ())] ++ check ++ [said (.remove old.id) (.error e)])
        (.error (.step .remove old.name e))
  | notRenamed (hrunning : old.running = true) (newId : String)
      {check : List UpdateExchange} (hcheck : Checked old newId check (.ok ())) (e : DaemonError) :
      Course stopTimeout image old
        ([said (.stop old.id stopTimeout) (.ok ()),
          said (.create (temporaryName old.name) (old.spec.withImage image)) (.ok newId),
          said (.start newId) (.ok ())] ++ check ++
          [said (.remove old.id) (.ok ()), said (.rename newId old.name) (.error e)])
        (.error (.step .rename old.name e))
  | tookOver (hrunning : old.running = true) (newId : String)
      {check : List UpdateExchange} (hcheck : Checked old newId check (.ok ())) :
      Course stopTimeout image old
        ([said (.stop old.id stopTimeout) (.ok ()),
          said (.create (temporaryName old.name) (old.spec.withImage image)) (.ok newId),
          said (.start newId) (.ok ())] ++ check ++
          [said (.remove old.id) (.ok ()), said (.rename newId old.name) (.ok ())])
        (.ok ⟨old.id, newId, true⟩)

/-- The conversations of a replacement and their results. -/
inductive Protocol (stopTimeout : Duration) (key image : String) :
    List UpdateExchange → Except ReplaceError Replaced → Prop where
  | notInspected (e : DaemonError) :
      Protocol stopTimeout key image [said (.inspect key) (.error e)] (.error (.step .inspect key e))
  | inspected (old : ContainerDetails) {trace : List UpdateExchange}
      {result : Except ReplaceError Replaced} (h : Course stopTimeout image old trace result) :
      Protocol stopTimeout key image (said (.inspect key) (.ok old) :: trace) result

variable {stopTimeout : Duration} {key image : String} {old : ContainerDetails}
  {trace : List UpdateExchange} {result : Except ReplaceError Replaced}

theorem runs_rollBack_none_iff {cause : ReplaceFailure} {err : ReplaceError} :
    Runs (rollBack old none cause) trace err ↔ Restart old cause trace err := by
  constructor
  · intro h
    obtain ⟨t, u, reply, rfl, hstart, h⟩ := runs_bind_iff.1 h
    rw [runs_daemon_iff.1 hstart]
    cases reply with
    | error e =>
        obtain ⟨rfl, rfl⟩ := runs_pure_iff.1 h
        exact .failed e
    | ok _ =>
        obtain ⟨rfl, rfl⟩ := runs_pure_iff.1 h
        exact .again
  · intro h
    cases h with
    | again => exact runs_said_cons (.start old.id) (.ok ()) (.done _)
    | failed e => exact runs_said_cons (.start old.id) (.error e) (.done _)

theorem runs_rollBack_some_iff (newId : String) {cause : ReplaceFailure} {err : ReplaceError} :
    Runs (rollBack old (some newId) cause) trace err ↔
      ∃ removed last, trace = said (.remove newId) removed :: last ∧ Restart old cause last err := by
  constructor
  · intro h
    obtain ⟨t, last, removed, rfl, hremove, h⟩ := runs_bind_iff.1 h
    rw [runs_daemon_iff.1 hremove]
    exact ⟨removed, last, rfl, runs_rollBack_none_iff.1 h⟩
  · rintro ⟨removed, last, rfl, hlast⟩
    exact runs_said_cons (.remove newId) removed (runs_rollBack_none_iff.2 hlast)

/-- The exchanges in which a replacement is created, started and checked. -/
inductive Attempts (old : ContainerDetails) (image : String) :
    List UpdateExchange → Attempt → Prop where
  | notCreated (e : DaemonError) :
      Attempts old image
        [said (.create (temporaryName old.name) (old.spec.withImage image)) (.error e)]
        (.failed none (.create e))
  | notStarted (newId : String) (e : DaemonError) :
      Attempts old image
        [said (.create (temporaryName old.name) (old.spec.withImage image)) (.ok newId),
          said (.start newId) (.error e)]
        (.failed (some newId) (.start e))
  | unhealthy (newId : String) {check : List UpdateExchange} {e : HealthError}
      (hcheck : Checked old newId check (.error e)) :
      Attempts old image
        (said (.create (temporaryName old.name) (old.spec.withImage image)) (.ok newId) ::
          said (.start newId) (.ok ()) :: check)
        (.failed (some newId) (.health e))
  | healthy (newId : String) {check : List UpdateExchange}
      (hcheck : Checked old newId check (.ok ())) :
      Attempts old image
        (said (.create (temporaryName old.name) (old.spec.withImage image)) (.ok newId) ::
          said (.start newId) (.ok ()) :: check)
        (.healthy newId)

theorem runs_attempt_iff {image : String} {out : Attempt} :
    Runs (attempt old image) trace out ↔ Attempts old image trace out := by
  constructor
  · intro h
    obtain ⟨t, u, created, rfl, hcreate, h⟩ := runs_bind_iff.1 h
    rw [runs_daemon_iff.1 hcreate]
    cases created with
    | error e =>
        obtain ⟨rfl, rfl⟩ := runs_pure_iff.1 h
        exact .notCreated e
    | ok newId =>
        obtain ⟨t', u', started, rfl, hstart, h⟩ := runs_bind_iff.1 h
        rw [runs_daemon_iff.1 hstart]
        cases started with
        | error e =>
            obtain ⟨rfl, rfl⟩ := runs_pure_iff.1 h
            exact .notStarted newId e
        | ok _ =>
            obtain ⟨check, rest, verdict, rfl, hcheck, h⟩ := runs_bind_iff.1 h
            have hchecked : Checked old newId check verdict :=
              ⟨hcheck, Health.daemonCalls_check hcheck⟩
            cases verdict with
            | error e =>
                obtain ⟨rfl, rfl⟩ := runs_pure_iff.1 h
                rw [List.append_nil]
                exact .unhealthy newId hchecked
            | ok _ =>
                obtain ⟨rfl, rfl⟩ := runs_pure_iff.1 h
                rw [List.append_nil]
                exact .healthy newId hchecked
  · intro h
    cases h with
    | notCreated e => exact runs_said_cons (.create _ _) (.error e) (.done _)
    | notStarted newId e =>
        apply runs_said_cons (.create _ _) (.ok newId)
        exact runs_said_cons (.start newId) (.error e) (.done _)
    | @unhealthy newId check e hcheck =>
        apply runs_said_cons (.create _ _) (.ok newId)
        apply runs_said_cons (.start newId) (.ok ())
        exact runs_bind_iff.2 ⟨check, [], .error e, (List.append_nil _).symm, hcheck.runs, .done _⟩
    | @healthy newId check hcheck =>
        apply runs_said_cons (.create _ _) (.ok newId)
        apply runs_said_cons (.start newId) (.ok ())
        exact runs_bind_iff.2 ⟨check, [], .ok (), (List.append_nil _).symm, hcheck.runs, .done _⟩

theorem course_of_replaceRunning (hrunning : old.running = true)
    (hrun : Runs (replaceRunning old image) trace result) :
    Course stopTimeout image old (said (.stop old.id stopTimeout) (.ok ()) :: trace) result := by
  obtain ⟨t, u, out, rfl, hattempt, h⟩ := runs_bind_iff.1 hrun
  have hattempts := runs_attempt_iff.1 hattempt
  cases out with
  | failed newId cause =>
      obtain ⟨v, rest, err, rfl, hback, h⟩ := runs_bind_iff.1 h
      obtain ⟨rfl, rfl⟩ := runs_pure_iff.1 h
      rw [List.append_nil]
      cases hattempts with
      | notCreated e => exact .notCreated hrunning e (runs_rollBack_none_iff.1 hback)
      | notStarted newId e =>
          obtain ⟨removed, last, rfl, hlast⟩ := (runs_rollBack_some_iff newId).1 hback
          exact .notStarted hrunning newId e removed hlast
      | unhealthy newId hcheck =>
          obtain ⟨removed, last, rfl, hlast⟩ := (runs_rollBack_some_iff newId).1 hback
          exact .unhealthy hrunning newId hcheck removed hlast
  | healthy newId =>
      cases hattempts with
      | healthy newId hcheck =>
          obtain ⟨v, w, removed, rfl, hremove, h⟩ := runs_bind_iff.1 h
          rw [runs_daemon_iff.1 hremove]
          cases removed with
          | error e =>
              obtain ⟨rfl, rfl⟩ := runs_pure_iff.1 h
              exact .oldNotRemoved hrunning newId hcheck e
          | ok _ =>
              obtain ⟨x, y, renamed, rfl, hrename, h⟩ := runs_bind_iff.1 h
              rw [runs_daemon_iff.1 hrename]
              cases renamed with
              | error e =>
                  obtain ⟨rfl, rfl⟩ := runs_pure_iff.1 h
                  exact .notRenamed hrunning newId hcheck e
              | ok _ =>
                  obtain ⟨rfl, rfl⟩ := runs_pure_iff.1 h
                  exact .tookOver hrunning newId hcheck

theorem course_of_replaceStopped (hstopped : old.running = false)
    (h : Runs (replaceStopped old image) trace result) :
    Course stopTimeout image old trace result := by
  obtain ⟨t, u, removed, rfl, hremove, h⟩ := runs_bind_iff.1 h
  rw [runs_daemon_iff.1 hremove]
  cases removed with
  | error e =>
      obtain ⟨rfl, rfl⟩ := runs_pure_iff.1 h
      exact .notRemoved hstopped e
  | ok _ =>
      obtain ⟨v, w, created, rfl, hcreate, h⟩ := runs_bind_iff.1 h
      rw [runs_daemon_iff.1 hcreate]
      cases created with
      | error e =>
          obtain ⟨rfl, rfl⟩ := runs_pure_iff.1 h
          exact .notRecreated hstopped e
      | ok newId =>
          obtain ⟨rfl, rfl⟩ := runs_pure_iff.1 h
          exact .recreated hstopped newId

theorem protocol_of_runs (h : Runs (replace stopTimeout key image) trace result) :
    Protocol stopTimeout key image trace result := by
  obtain ⟨t, u, seen, rfl, hinspect, h⟩ := runs_bind_iff.1 h
  rw [runs_daemon_iff.1 hinspect]
  cases seen with
  | error e =>
      obtain ⟨rfl, rfl⟩ := runs_pure_iff.1 h
      exact .notInspected e
  | ok old =>
      refine .inspected old ?_
      dsimp only at h
      split at h
      · next hrunning =>
          obtain ⟨v, w, stopped, rfl, hstop, h⟩ := runs_bind_iff.1 h
          rw [runs_daemon_iff.1 hstop]
          cases stopped with
          | error e =>
              obtain ⟨rfl, rfl⟩ := runs_pure_iff.1 h
              exact .notStopped hrunning e
          | ok _ => exact course_of_replaceRunning hrunning h
      · next hstopped => exact course_of_replaceStopped (Bool.eq_false_iff.2 hstopped) h

/-- After the inspection of a container that runs. -/
theorem runs_of_running (hrunning : old.running = true) (stopped : Except DaemonError Unit)
    (h : Runs (match stopped with
      | .error e => pure (.error (.step .stop old.name e))
      | .ok () => replaceRunning old image) trace result) :
    Runs (replace stopTimeout key image)
      (said (.inspect key) (.ok old) :: said (.stop old.id stopTimeout) stopped :: trace)
      result := by
  apply runs_said_cons (.inspect key) (.ok old)
  dsimp only
  rw [if_pos hrunning]
  exact runs_said_cons (.stop old.id stopTimeout) stopped h

/-- After the inspection of a container that does not run. -/
theorem runs_of_stopped (hstopped : old.running = false)
    (h : Runs (replaceStopped old image) trace result) :
    Runs (replace stopTimeout key image) (said (.inspect key) (.ok old) :: trace) result := by
  apply runs_said_cons (.inspect key) (.ok old)
  dsimp only
  rw [if_neg (by rw [hstopped]; exact Bool.false_ne_true)]
  exact h

/-- After a replacement that was given up. -/
theorem runs_of_failed {newId : Option String} {cause : ReplaceFailure}
    {t u : List UpdateExchange} {err : ReplaceError}
    (ht : Attempts old image t (.failed newId cause)) (hu : Runs (rollBack old newId cause) u err) :
    Runs (replaceRunning old image) (t ++ u) (.error err) := by
  refine runs_bind_iff.2 ⟨t, u, _, rfl, runs_attempt_iff.2 ht, ?_⟩
  exact runs_bind_iff.2 ⟨u, [], err, (List.append_nil u).symm, hu, .done _⟩

/-- After a replacement that was found healthy. -/
theorem runs_of_healthy {newId : String} {check u : List UpdateExchange}
    (hcheck : Checked old newId check (.ok ())) (hu : Runs (takeOver old newId) u result) :
    Runs (replaceRunning old image)
      (said (.create (temporaryName old.name) (old.spec.withImage image)) (.ok newId) ::
        said (.start newId) (.ok ()) :: (check ++ u)) result :=
  runs_bind_iff.2 ⟨_, u, _, rfl, runs_attempt_iff.2 (.healthy newId hcheck), hu⟩

theorem Course.runs (h : Course stopTimeout image old trace result) :
    Runs (replace stopTimeout key image) (said (.inspect key) (.ok old) :: trace) result := by
  cases h with
  | notRemoved hstopped e =>
      apply runs_of_stopped hstopped
      exact runs_said_cons (.remove old.id) (.error e) (.done _)
  | notRecreated hstopped e =>
      apply runs_of_stopped hstopped
      apply runs_said_cons (.remove old.id) (.ok ())
      exact runs_said_cons (.create _ _) (.error e) (.done _)
  | recreated hstopped newId =>
      apply runs_of_stopped hstopped
      apply runs_said_cons (.remove old.id) (.ok ())
      exact runs_said_cons (.create _ _) (.ok newId) (.done _)
  | notStopped hrunning e => exact runs_of_running hrunning (.error e) (.done _)
  | notCreated hrunning e hlast =>
      have hback := runs_rollBack_none_iff.2 hlast
      exact runs_of_running hrunning (.ok ()) (runs_of_failed (.notCreated e) hback)
  | @notStarted hrunning newId e removed last err hlast =>
      have hback := (runs_rollBack_some_iff newId).2 ⟨removed, last, rfl, hlast⟩
      exact runs_of_running hrunning (.ok ())
        (runs_of_failed (.notStarted newId e) hback)
  | @unhealthy hrunning newId check e hcheck removed last err hlast =>
      have hback := (runs_rollBack_some_iff newId).2 ⟨removed, last, rfl, hlast⟩
      exact runs_of_running hrunning (.ok ())
        (runs_of_failed (.unhealthy newId hcheck) hback)
  | oldNotRemoved hrunning newId hcheck e =>
      refine runs_of_running hrunning (.ok ()) (runs_of_healthy hcheck ?_)
      exact runs_said_cons (.remove old.id) (.error e) (.done _)
  | notRenamed hrunning newId hcheck e =>
      refine runs_of_running hrunning (.ok ()) (runs_of_healthy hcheck ?_)
      apply runs_said_cons (.remove old.id) (.ok ())
      exact runs_said_cons (.rename newId old.name) (.error e) (.done _)
  | tookOver hrunning newId hcheck =>
      refine runs_of_running hrunning (.ok ()) (runs_of_healthy hcheck ?_)
      apply runs_said_cons (.remove old.id) (.ok ())
      exact runs_said_cons (.rename newId old.name) (.ok ()) (.done _)

theorem runs_replace_iff :
    Runs (replace stopTimeout key image) trace result ↔
      Protocol stopTimeout key image trace result := by
  constructor
  · exact protocol_of_runs
  · intro h
    cases h with
    | notInspected e => exact runs_said_cons (.inspect key) (.error e) (.done _)
    | inspected old h => exact h.runs

/-- The container that a call names. -/
def target? : DaemonCall → Option String
  | .inspect id => some id
  | .start id => some id
  | .stop id _ => some id
  | .remove id => some id
  | .rename id _ => some id
  | _ => none

/-- What the order of the calls after its inspection promises to a container. -/
structure Guarded (stopTimeout : Duration) (image : String) (old : ContainerDetails)
    (trace : List UpdateExchange) : Prop where
  /-- If it ran, it is not removed before its replacement was created, started and found healthy. -/
  removed_last : old.running = true → ∀ t reply u,
    trace = t ++ said (.remove old.id) reply :: u →
      ∃ newId check, Checked old newId check (.ok ()) ∧
        t = [said (.stop old.id stopTimeout) (.ok ()),
          said (.create (temporaryName old.name) (old.spec.withImage image)) (.ok newId),
          said (.start newId) (.ok ())] ++ check
  /-- Nothing is started before it was stopped. -/
  stopped_first : ∀ id t reply u, trace = t ++ said (.start id) reply :: u →
    said (.stop old.id stopTimeout) (.ok ()) ∈ t
  /-- No call names another container. -/
  no_other : ∀ call ∈ daemonCalls trace, ∀ id : String, target? call = some id →
    id = old.id ∨ ∃ name spec, said (.create name spec) (.ok id) ∈ trace

theorem Restart.daemonCalls_eq {cause : ReplaceFailure} {err : ReplaceError}
    (h : Restart old cause trace err) : daemonCalls trace = [.start old.id] := by
  cases h with
  | again => rfl
  | failed e => rfl

theorem Checked.notMem {newId : String} {verdict : Except HealthError Unit} {call : DaemonCall}
    (h : Checked old newId trace verdict) (hcall : call ≠ .inspect newId) :
    call ∉ daemonCalls trace := by
  rcases h.calls with hcalls | hcalls
  · simp [hcalls]
  · simp [hcalls, hcall]

/-- The calls before the removal of a container whose replacement is healthy. -/
theorem Checked.eq_of_removed {newId : String} {check m t u : List UpdateExchange}
    {r reply : (DaemonCall.remove old.id).Reply} (hcheck : Checked old newId check (.ok ()))
    (hm : DaemonCall.remove old.id ∉ daemonCalls m)
    (h : [said (.stop old.id stopTimeout) (.ok ()),
        said (.create (temporaryName old.name) (old.spec.withImage image)) (.ok newId),
        said (.start newId) (.ok ())] ++ check ++ said (.remove old.id) r :: m =
      t ++ said (.remove old.id) reply :: u) :
    t = [said (.stop old.id stopTimeout) (.ok ()),
      said (.create (temporaryName old.name) (old.spec.withImage image)) (.ok newId),
      said (.start newId) (.ok ())] ++ check := by
  refine eq_of_append_eq ?_ hm h
  simp [hcheck.notMem]

theorem Course.removed_last (h : Course stopTimeout image old trace result)
    (hfresh : ∀ name spec, ∀ newId : String,
      said (.create name spec) (.ok newId) ∈ trace → newId ≠ old.id)
    (hrunning : old.running = true) {t u : List UpdateExchange}
    {reply : (DaemonCall.remove old.id).Reply}
    (htrace : trace = t ++ said (.remove old.id) reply :: u) :
    ∃ newId check, Checked old newId check (.ok ()) ∧
      t = [said (.stop old.id stopTimeout) (.ok ()),
        said (.create (temporaryName old.name) (old.spec.withImage image)) (.ok newId),
        said (.start newId) (.ok ())] ++ check := by
  have hmem : DaemonCall.remove old.id ∈ daemonCalls trace :=
    htrace ▸ mem_daemonCalls (.remove old.id)
  cases h with
  | notRemoved hstopped e => simp [hrunning] at hstopped
  | notRecreated hstopped e => simp [hrunning] at hstopped
  | recreated hstopped newId => simp [hrunning] at hstopped
  | notStopped _ e => simp at hmem
  | notCreated _ e hlast => simp [hlast.daemonCalls_eq] at hmem
  | notStarted _ newId e removed hlast =>
      have hne := hfresh (temporaryName old.name) (old.spec.withImage image) newId (by simp)
      simp [hlast.daemonCalls_eq, hne.symm] at hmem
  | unhealthy _ newId hcheck removed hlast =>
      have hne := hfresh (temporaryName old.name) (old.spec.withImage image) newId (by simp)
      simp [daemonCalls_append, hlast.daemonCalls_eq, hcheck.notMem, hne.symm] at hmem
  | oldNotRemoved _ newId hcheck e =>
      exact ⟨newId, _, hcheck, hcheck.eq_of_removed (by simp) htrace⟩
  | notRenamed _ newId hcheck e =>
      exact ⟨newId, _, hcheck, hcheck.eq_of_removed (by simp) htrace⟩
  | tookOver _ newId hcheck =>
      exact ⟨newId, _, hcheck, hcheck.eq_of_removed (by simp) htrace⟩

theorem stop_mem_of_start {id : String} {t u rest : List UpdateExchange}
    {reply : (DaemonCall.start id).Reply}
    (h : said (.stop old.id stopTimeout) (.ok ()) :: rest = t ++ said (.start id) reply :: u) :
    said (.stop old.id stopTimeout) (.ok ()) ∈ t := by
  obtain ⟨t', rfl, -⟩ := exists_of_append_eq (l := [said (.stop old.id stopTimeout) (.ok ())])
    (by simp) h
  exact List.mem_cons_self

theorem Course.stopped_first (h : Course stopTimeout image old trace result) {id : String}
    {t u : List UpdateExchange} {reply : (DaemonCall.start id).Reply}
    (htrace : trace = t ++ said (.start id) reply :: u) :
    said (.stop old.id stopTimeout) (.ok ()) ∈ t := by
  have hmem : DaemonCall.start id ∈ daemonCalls trace :=
    htrace ▸ mem_daemonCalls (.start id)
  cases h with
  | notRemoved _ e => simp at hmem
  | notRecreated _ e => simp at hmem
  | recreated _ newId => simp at hmem
  | notStopped _ e => simp at hmem
  | notCreated _ e hlast => exact stop_mem_of_start htrace
  | notStarted _ newId e removed hlast => exact stop_mem_of_start htrace
  | unhealthy _ newId hcheck removed hlast => exact stop_mem_of_start htrace
  | oldNotRemoved _ newId hcheck e => exact stop_mem_of_start htrace
  | notRenamed _ newId hcheck e => exact stop_mem_of_start htrace
  | tookOver _ newId hcheck => exact stop_mem_of_start htrace

/-- Calls that name no container but these two. -/
def NamesOnly (a b : String) (calls : List DaemonCall) : Prop :=
  ∀ call ∈ calls, ∀ id : String, target? call = some id → id = a ∨ id = b

section NamesOnly

variable {a b newId : String} {call : DaemonCall} {calls more : List DaemonCall}

@[simp]
theorem namesOnly_nil : NamesOnly a b [] :=
  fun _ h => absurd h List.not_mem_nil

@[simp]
theorem namesOnly_cons : NamesOnly a b (call :: calls) ↔
    (∀ id : String, target? call = some id → id = a ∨ id = b) ∧ NamesOnly a b calls :=
  List.forall_mem_cons

@[simp]
theorem namesOnly_append :
    NamesOnly a b (calls ++ more) ↔ NamesOnly a b calls ∧ NamesOnly a b more :=
  List.forall_mem_append

theorem Checked.namesOnly {verdict : Except HealthError Unit}
    (h : Checked old newId trace verdict) : NamesOnly old.id newId (daemonCalls trace) := by
  rcases h.calls with hcalls | hcalls
  · simp [hcalls]
  · simp [hcalls, target?]

theorem Restart.namesOnly {cause : ReplaceFailure} {err : ReplaceError}
    (h : Restart old cause trace err) : NamesOnly old.id b (daemonCalls trace) := by
  simp [h.daemonCalls_eq, target?]

end NamesOnly

/-- Beside the container itself only the one that was created in its course is named. -/
theorem Course.namesOnly (h : Course stopTimeout image old trace result) :
    NamesOnly old.id old.id (daemonCalls trace) ∨
      ∃ name spec, ∃ newId : String, said (.create name spec) (.ok newId) ∈ trace ∧
        NamesOnly old.id newId (daemonCalls trace) := by
  have htemporary : ∀ {newId : String} {rest : List UpdateExchange},
      said (.create (temporaryName old.name) (old.spec.withImage image)) (.ok newId) ∈
        said (.stop old.id stopTimeout) (.ok ()) ::
          said (.create (temporaryName old.name) (old.spec.withImage image)) (.ok newId) :: rest :=
    List.mem_cons_of_mem _ List.mem_cons_self
  cases h with
  | notRemoved _ e => exact .inl (by simp [target?])
  | notRecreated _ e => exact .inl (by simp [target?])
  | recreated _ newId => exact .inl (by simp [target?])
  | notStopped _ e => exact .inl (by simp [target?])
  | notCreated _ e hlast => exact .inl (by simp [target?, hlast.namesOnly])
  | notStarted _ newId e removed hlast =>
      refine .inr ⟨_, _, newId, htemporary, ?_⟩
      simp [target?, hlast.namesOnly]
  | unhealthy _ newId hcheck removed hlast =>
      refine .inr ⟨_, _, newId, htemporary, ?_⟩
      simp [target?, daemonCalls_append, hcheck.namesOnly, hlast.namesOnly]
  | oldNotRemoved _ newId hcheck e =>
      refine .inr ⟨_, _, newId, htemporary, ?_⟩
      simp [target?, daemonCalls_append, hcheck.namesOnly]
  | notRenamed _ newId hcheck e =>
      refine .inr ⟨_, _, newId, htemporary, ?_⟩
      simp [target?, daemonCalls_append, hcheck.namesOnly]
  | tookOver _ newId hcheck =>
      refine .inr ⟨_, _, newId, htemporary, ?_⟩
      simp [target?, daemonCalls_append, hcheck.namesOnly]

theorem Course.guarded (h : Course stopTimeout image old trace result)
    (hfresh : ∀ name spec, ∀ newId : String,
      said (.create name spec) (.ok newId) ∈ trace → newId ≠ old.id) :
    Guarded stopTimeout image old trace where
  removed_last hrunning _ _ _ htrace := h.removed_last hfresh hrunning htrace
  stopped_first _ _ _ _ htrace := h.stopped_first htrace
  no_other call hcall id hid := by
    rcases h.namesOnly with hnames | ⟨name, spec, newId, hmem, hnames⟩
    · exact .inl (or_self_iff.1 (hnames call hcall id hid))
    · rcases hnames call hcall id hid with rfl | rfl
      · exact .inl rfl
      · exact .inr ⟨name, spec, hmem⟩

/-- The conversations of a replacement are those of the protocol, with the results that it gives
them. Once a container was inspected, and if the daemon gives another id to what it creates, the
container is not removed before its replacement is healthy when it ran, nothing is started before it
was stopped, and no call names another container than these two. -/
theorem replace_protocol (stopTimeout : Duration) (key image : String) :
    (∀ trace result, Runs (replace stopTimeout key image) trace result ↔
      Protocol stopTimeout key image trace result) ∧
    ∀ old trace result,
      Runs (replace stopTimeout key image) (said (.inspect key) (.ok old) :: trace) result →
      (∀ name spec, ∀ newId : String,
        said (.create name spec) (.ok newId) ∈ trace → newId ≠ old.id) →
      Guarded stopTimeout image old trace := by
  refine ⟨fun trace result => runs_replace_iff, fun old trace result h hfresh => ?_⟩
  cases protocol_of_runs h with
  | inspected old hcourse => exact hcourse.guarded hfresh

/-- A container without labels is replaced: its check asks nothing but the time. -/
theorem replace_protocol_web :
    Guarded .zero "app:2" ((web []).details (0 : Int))
      [said (.stop "c1" .zero) (.ok ()),
        said (.create "web-dockman-update" ((web []).spec.withImage "app:2")) (.ok "new1"),
        said (.start "new1") (.ok ()), ⟨UpdateRequest.now, (0 : Int)⟩, said (.remove "c1") (.ok ()),
        said (.rename "new1" "web") (.ok ())] := by
  have hcheck : Checked ((web []).details (0 : Int)) "new1" [⟨UpdateRequest.now, (0 : Int)⟩]
      (.ok ()) := ⟨.ask _ (.done _), .inl rfl⟩
  have hcourse : Course .zero "app:2" ((web []).details (0 : Int)) _ _ :=
    .tookOver rfl "new1" hcheck
  refine (replace_protocol .zero "web" "app:2").2 _ _ _ hcourse.runs ?_
  intro name spec newId hmem
  simp only [List.mem_cons, List.not_mem_nil, or_false] at hmem
  rcases hmem with hmem | hmem | hmem | hmem | hmem | hmem <;> cases hmem
  decide

end ContainerFleet.Replacement
