import ContainerFleet.Proofs.Replacement.Continuity
import ContainerFleet.Proofs.Replacement.Protocol

/-!
What a daemon in memory is left with when a running container could not be replaced. Main statements:
`exists_left_of_replace`, that the replacement is left behind exactly when it could not be removed, and
`replace_restores`, that otherwise only the container itself can be other than before: it was started
anew, or is stopped still.
-/

namespace ContainerFleet.Replacement

open Program MemoryDaemon

/-- The id of a container that was created, if an exchange is that. -/
def createdId? : UpdateExchange → Option String
  | ⟨.daemon (.create _ _), .ok id⟩ => some id
  | _ => none

/-- The id of a container that could not be removed, if an exchange is that. -/
def unremovedId? : UpdateExchange → Option String
  | ⟨.daemon (.remove id), .error _⟩ => some id
  | _ => none

/-- No container that was created failed to be removed. -/
def ClearsUp (trace : List UpdateExchange) : Prop :=
  ∀ id ∈ trace.filterMap createdId?, id ∉ trace.filterMap unremovedId?

instance (trace : List UpdateExchange) : Decidable (ClearsUp trace) :=
  inferInstanceAs (Decidable (∀ id ∈ trace.filterMap createdId?, id ∉ trace.filterMap unremovedId?))

variable {d t : MemoryDaemon} {before after : List MemoryContainer} {c n : MemoryContainer}
  {image : String} {trace : List UpdateExchange}

/-- A failed attempt leaves the containers as they were, with the replacement behind them if it was
created. -/
theorem Attempted.containers_eq {labels : LabelSet} {newId : Option String}
    {cause : ReplaceFailure} {u : MemoryDaemon}
    (h : Attempted d n labels (.failed newId cause) u) :
    (newId = none ∧ u = d) ∨
      ∃ m : MemoryContainer, newId = some m.id ∧ m.Same n ∧
        u = d.holding (d.containers ++ [m]) (d.created + 1) := by
  cases h with
  | notCreated e => exact .inl ⟨rfl, rfl⟩
  | notStarted e => exact .inr ⟨n, rfl, rfl, rfl⟩
  | unhealthy e now => exact .inr ⟨d.started now n, rfl, n.same_started d now, rfl⟩

/-- What a rollback makes of the container that could not be replaced. -/
inductive Restarted (d : MemoryDaemon) (before : List MemoryContainer) (c : MemoryContainer)
    (after : List MemoryContainer) (cause : ReplaceFailure) : ReplaceError → MemoryDaemon → Prop where
  | again (now : Moment) (created : Nat) :
      Restarted d before c after cause (.rolledBack c.name cause)
        (d.holding (before ++ d.started now c :: after) created)
  | failed (e : DaemonError) (created : Nat) :
      Restarted d before c after cause (.rollbackFailed c.name cause e)
        (d.holding (before ++ c :: after) created)

theorem restarted_of_rollBack_none {old : ContainerDetails} {cause : ReplaceFailure}
    {err : ReplaceError} {k : Nat} (hl : d.Locates before c after) (hid : old.id = c.id)
    (hname : old.name = c.name) (left : List MemoryContainer)
    (h : MemoryRun (rollBack old none cause) (d.holding (before ++ c :: (after ++ left)) k) err t) :
    Restarted d before c (after ++ left) cause err t := by
  have hplace : (d.holding (before ++ c :: (after ++ left)) k).Locates before c (after ++ left) :=
    ⟨rfl, hl.before_isCalled⟩
  rcases rollBack_none hplace hid h with ⟨now, rfl, rfl⟩ | ⟨e, rfl, rfl⟩
  · rw [hname]
    exact .again now k
  · rw [hname]
    exact .failed e k

/-- What a rollback leaves of a replacement `n`: nothing, unless it had been created and could not be
removed. -/
inductive Remains (n : MemoryContainer) (trace : List UpdateExchange) :
    Option String → List MemoryContainer → Prop where
  | notCreated (hkept : trace.filterMap unremovedId? = []) : Remains n trace none []
  | removed (hkept : trace.filterMap unremovedId? = []) : Remains n trace (some n.id) []
  | kept {m : MemoryContainer} (hm : m.Same n) (hkept : trace.filterMap unremovedId? = [m.id]) :
      Remains n trace (some m.id) [m]

theorem unremovedIds_of_restart {old : ContainerDetails} {cause : ReplaceFailure}
    {err : ReplaceError} (h : Restart old cause trace err) : trace.filterMap unremovedId? = [] := by
  cases h <;> rfl

/-- A rollback starts the container again among those that were there, and what is left of the
replacement is behind them. -/
theorem exists_remains_of_rollBack {old : ContainerDetails} {labels : LabelSet}
    {newId : Option String} {cause : ReplaceFailure} {err : ReplaceError} {u : MemoryDaemon}
    (hl : d.Locates before c after) (hfresh : d.Unused n.id) (hid : old.id = c.id)
    (hname : old.name = c.name) (hattempt : Attempted d n labels (.failed newId cause) u)
    (h : Converses conduct (rollBack old newId cause) u trace err t) :
    ∃ left, Remains n trace newId left ∧ Restarted d before c (after ++ left) cause err t := by
  have hall (k : Nat) : d.holding d.containers k = d.holding (before ++ c :: (after ++ [])) k := by
    rw [List.append_nil, ← hl.containers_eq]
  rcases hattempt.containers_eq with ⟨rfl, rfl⟩ | ⟨m, rfl, hm, rfl⟩
  · have hkept := unremovedIds_of_restart (runs_rollBack_none_iff.1 h.runs)
    have hrun : MemoryRun (rollBack old none cause) (u.holding u.containers u.created) err t :=
      h.runsIn fun _ _ _ _ hq => hq
    rw [hall] at hrun
    exact ⟨[], .notCreated hkept, restarted_of_rollBack_none hl hid hname [] hrun⟩
  · obtain ⟨v, last, removed, d₁, rfl, hremove, h⟩ := converses_bind_iff.1 h
    rw [UpdateProgram.runs_daemon_iff.1 hremove.runs]
    replace hremove := memoryRun_daemon_iff.1 (hremove.runsIn fun _ _ _ _ hq => hq)
    have hlast := unremovedIds_of_restart (runs_rollBack_none_iff.1 h.runs)
    replace h : MemoryRun (rollBack old none cause) d₁ err t := h.runsIn fun _ _ _ _ hq => hq
    cases removed with
    | error e =>
        rw [hremove.eq_of_error, hl.containers_eq, List.append_assoc, List.cons_append] at h
        exact ⟨[m], .kept hm (congrArg (m.id :: ·) hlast),
          restarted_of_rollBack_none hl hid hname [m] h⟩
    | ok _ =>
        have hjoined := Unused.locates (n := m) (k := d.created + 1) (hm.id_eq ▸ hfresh)
        have hgone : d₁ = d.holding d.containers (d.created + 1) := by
          rw [hjoined.of_remove hremove, List.append_nil]
          rfl
        rw [hgone, hall] at h
        rw [hm.id_eq]
        exact ⟨[], .removed hlast, restarted_of_rollBack_none hl hid hname [] h⟩

/-- What an attempt that was given up leaves of a replacement `n`, by its exchanges: nothing, or the
replacement when it could not be removed. Nothing else was created. -/
inductive LeftBehind (n : MemoryContainer) (trace : List UpdateExchange) :
    List MemoryContainer → Prop where
  | nothing (hcreated : ∀ id ∈ trace.filterMap createdId?, id = n.id) (hclear : ClearsUp trace) :
      LeftBehind n trace []
  | replacement {m : MemoryContainer} (hm : m.Same n)
      (hcreated : trace.filterMap createdId? = [m.id])
      (hkept : trace.filterMap unremovedId? = [m.id]) : LeftBehind n trace [m]

theorem LeftBehind.eq_nil {left : List MemoryContainer} (h : LeftBehind n trace left)
    (hclear : ClearsUp trace) : left = [] := by
  cases h with
  | nothing _ _ => rfl
  | replacement hm hcreated hkept =>
      rw [ClearsUp, hcreated, hkept] at hclear
      exact absurd (List.mem_singleton_self _) (hclear _ (List.mem_singleton_self _))

/-- Exchanges in which nothing is created or removed do not count. -/
theorem LeftBehind.append_left {left : List MemoryContainer} {looked : List UpdateExchange}
    (h : LeftBehind n trace left) (hcreated : looked.filterMap createdId? = [])
    (hkept : looked.filterMap unremovedId? = []) : LeftBehind n (looked ++ trace) left := by
  have hcreated' : (looked ++ trace).filterMap createdId? = trace.filterMap createdId? := by
    rw [List.filterMap_append, hcreated, List.nil_append]
  have hkept' : (looked ++ trace).filterMap unremovedId? = trace.filterMap unremovedId? := by
    rw [List.filterMap_append, hkept, List.nil_append]
  cases h with
  | nothing hids hclear =>
      refine .nothing (hcreated' ▸ hids) ?_
      rw [ClearsUp, hcreated', hkept']
      exact hclear
  | replacement hm hc hk => exact .replacement hm (hcreated'.trans hc) (hkept'.trans hk)

/-- A health check creates and removes nothing. -/
theorem Checked.silent {old : ContainerDetails} {newId : String}
    {verdict : Except HealthError Unit} (h : Checked old newId trace verdict) :
    trace.filterMap createdId? = [] ∧ trace.filterMap unremovedId? = [] := by
  have hasked := Health.asksOnly_check _ _ _ _ h.runs
  have hsilent (x : UpdateExchange) (hx : UpdateRequest.ChecksHealth x.request) :
      createdId? x = none ∧ unremovedId? x = none := by
    obtain ⟨q, reply⟩ := x
    change UpdateRequest at q
    cases q with
    | daemon call => cases call <;> first | exact ⟨rfl, rfl⟩ | cases hx
    | pull image => cases hx
    | _ => exact ⟨rfl, rfl⟩
  exact ⟨List.filterMap_eq_nil_iff.2 fun x hx => (hsilent x (hasked x hx)).1,
    List.filterMap_eq_nil_iff.2 fun x hx => (hsilent x (hasked x hx)).2⟩

/-- A failed attempt created its replacement or nothing, and removed nothing. -/
theorem Attempts.created_eq {old : ContainerDetails} {newId : Option String}
    {cause : ReplaceFailure} (h : Attempts old image trace (.failed newId cause)) :
    trace.filterMap createdId? = newId.toList ∧ trace.filterMap unremovedId? = [] := by
  cases h with
  | notCreated e => exact ⟨rfl, rfl⟩
  | notStarted newId e => exact ⟨rfl, rfl⟩
  | unhealthy newId hcheck =>
      exact ⟨congrArg (newId :: ·) hcheck.silent.1, hcheck.silent.2⟩

theorem createdIds_of_rollBack {old : ContainerDetails} {newId : Option String}
    {cause : ReplaceFailure} {err : ReplaceError} (h : Runs (rollBack old newId cause) trace err) :
    trace.filterMap createdId? = [] := by
  cases newId with
  | none => cases runs_rollBack_none_iff.1 h <;> rfl
  | some newId =>
      obtain ⟨removed, last, rfl, hlast⟩ := (runs_rollBack_some_iff newId).1 h
      cases hlast <;> rfl

/-- A rollback after a failed attempt leaves behind what it could not remove. -/
theorem Remains.leftBehind {old : ContainerDetails} {newId : Option String} {cause : ReplaceFailure}
    {err : ReplaceError} {tried undone : List UpdateExchange} {left : List MemoryContainer}
    (h : Remains n undone newId left) (htried : Attempts old image tried (.failed newId cause))
    (hundone : Runs (rollBack old newId cause) undone err) :
    LeftBehind n (tried ++ undone) left := by
  have hcreated : (tried ++ undone).filterMap createdId? = newId.toList := by
    rw [List.filterMap_append, htried.created_eq.1, createdIds_of_rollBack hundone, List.append_nil]
  have hkept : (tried ++ undone).filterMap unremovedId? = undone.filterMap unremovedId? := by
    rw [List.filterMap_append, htried.created_eq.2, List.nil_append]
  have hclear (hnone : undone.filterMap unremovedId? = []) : ClearsUp (tried ++ undone) := by
    intro id _
    rw [hkept, hnone]
    exact List.not_mem_nil
  cases h with
  | notCreated hnone => exact .nothing (by simp [hcreated]) (hclear hnone)
  | removed hnone => exact .nothing (by simp [hcreated]) (hclear hnone)
  | kept hm hsome => exact .replacement hm hcreated (hkept.trans hsome)

/-- Results of replacing a container that say it was given up after it had been stopped. -/
def givesUp : Except ReplaceError Replaced → Bool
  | .error (.rolledBack _ _) => true
  | .error (.rollbackFailed _ _ _) => true
  | _ => false

theorem givesUp_of_takeOver {old : ContainerDetails} {newId : String}
    {result : Except ReplaceError Replaced} (h : Runs (takeOver old newId) trace result) :
    givesUp result = false := by
  obtain ⟨v, w, removed, -, -, h⟩ := runs_bind_iff.1 h
  cases removed with
  | error e =>
      rw [(runs_pure_iff.1 h).2]
      rfl
  | ok _ =>
      obtain ⟨x, y, renamed, -, -, h⟩ := runs_bind_iff.1 h
      cases renamed with
      | error e =>
          rw [(runs_pure_iff.1 h).2]
          rfl
      | ok _ =>
          rw [(runs_pure_iff.1 h).2]
          rfl

theorem exists_left_of_replaceRunning {seenAt : Moment} {result : Except ReplaceError Replaced}
    (hl : d.Locates before c after) (hfresh : d.Unused d.nextId)
    (hresult : givesUp result = true)
    (h : Converses conduct (replaceRunning (c.details seenAt) image)
      (d.holding (before ++ c.stopped :: after) d.created) trace result t) :
    ∃ cause err left, result = .error err ∧
      LeftBehind (d.replacementOf (temporaryName c.name) c image) trace left ∧
      Restarted d before c.stopped (after ++ left) cause err t := by
  obtain ⟨tried, rest, out, u, rfl, hattempt, h⟩ := converses_bind_iff.1 h
  have hfresh' : (d.holding (before ++ c.stopped :: after) d.created).Unused d.nextId :=
    hfresh.of_same hl c.same_stopped
  have hattempted := attempt_attempted (n := d.replacementOf (temporaryName c.name) c image) rfl
    hfresh' (hattempt.runsIn fun _ _ _ _ hq => hq)
  cases out with
  | healthy newId => exact absurd (hresult.symm.trans (givesUp_of_takeOver h.runs)) Bool.noConfusion
  | failed newId cause =>
      obtain ⟨undone, last, err, u', rfl, hback, h⟩ := converses_bind_iff.1 h
      obtain ⟨rfl, rfl, rfl⟩ := converses_pure_iff.1 h
      have hplace := hl.of_id_eq (f := c.stopped) (k := d.created) rfl
      obtain ⟨left, hremains, hrestarted⟩ :=
        exists_remains_of_rollBack hplace hfresh' rfl rfl hattempted hback
      rw [List.append_nil]
      refine ⟨cause, err, left, rfl,
        hremains.leftBehind (runs_attempt_iff.1 hattempt.runs) hback.runs, ?_⟩
      cases hrestarted with
      | again now created => exact .again now created
      | failed e created => exact .failed e created

/-- How a daemon is left when a running container was not replaced, by what the result says. What
runs in the end is the container that was there, unless it exits as soon as it is started. -/
structure Undone (d : MemoryDaemon) (before : List MemoryContainer) (c : MemoryContainer)
    (after : List MemoryContainer) (trace : List UpdateExchange)
    (result : Except ReplaceError Replaced) (t : MemoryDaemon) : Prop where
  rolledBack : ∀ name cause, result = .error (.rolledBack name cause) → ClearsUp trace →
    ∃ running uptime, (running = c.running ↔ c.name ∉ d.crashing) ∧
      t.containers = before ++ { c with running := running, uptime := uptime } :: after
  rollbackFailed : ∀ name cause e, result = .error (.rollbackFailed name cause e) → ClearsUp trace →
    t.containers = before ++ { c with running := false } :: after
  notInspected : ∀ container e, result = .error (.step .inspect container e) → t = d
  notStopped : ∀ container e, result = .error (.step .stop container e) → t = d

theorem Aftermath.eq_of_notInspected {container : String} {e : DaemonError}
    (h : Aftermath d before c after image (.error (.step .inspect container e)) t) : t = d := by
  cases h
  rfl

theorem Aftermath.eq_of_notStopped {container : String} {e : DaemonError}
    (h : Aftermath d before c after image (.error (.step .stop container e)) t) : t = d := by
  cases h
  rfl

/-- An attempt that was given up leaves the container among the others, and behind them what it could
not remove. -/
theorem exists_left_of_replace {stopTimeout : Duration} {key : String}
    {result : Except ReplaceError Replaced} (hl : d.Locates before c after)
    (hfind : d.find? key = some c) (hfresh : d.Unused d.nextId) (hrunning : c.running = true)
    (hresult : givesUp result = true)
    (h : Converses conduct (replace stopTimeout key image) d trace result t) :
    ∃ cause err left, result = .error err ∧
      LeftBehind (d.replacementOf (temporaryName c.name) c image) trace left ∧
      Restarted d before c.stopped (after ++ left) cause err t := by
  obtain ⟨v, w, reply, d₁, rfl, hinspect, h⟩ := converses_bind_iff.1 h
  have hv := UpdateProgram.runs_daemon_iff.1 hinspect.runs
  replace hinspect := memoryRun_daemon_iff.1 (hinspect.runsIn fun _ _ _ _ hq => hq)
  cases reply with
  | error e =>
      rw [(converses_pure_iff.1 h).2.1] at hresult
      cases hresult
  | ok old =>
      obtain ⟨rfl, seen, now, hseen, rfl⟩ := hinspect.of_inspect
      cases hfind.symm.trans hseen
      dsimp only at h
      rw [if_pos (show (c.details now).running = true from hrunning)] at h
      obtain ⟨v', w', reply, d₂, rfl, hstop, h⟩ := converses_bind_iff.1 h
      have hv' := UpdateProgram.runs_daemon_iff.1 hstop.runs
      replace hstop := memoryRun_daemon_iff.1 (hstop.runsIn fun _ _ _ _ hq => hq)
      cases reply with
      | error e =>
          rw [(converses_pure_iff.1 h).2.1] at hresult
          cases hresult
      | ok _ =>
          rw [hl.of_stop hstop] at h
          obtain ⟨cause, err, left, heq, hleft, hend⟩ :=
            exists_left_of_replaceRunning hl hfresh hresult h
          refine ⟨cause, err, left, heq, ?_, hend⟩
          rw [hv, hv']
          exact (hleft.append_left rfl rfl).append_left rfl rfl

theorem restarted_of_replace {stopTimeout : Duration} {key : String}
    {result : Except ReplaceError Replaced} (hl : d.Locates before c after)
    (hfind : d.find? key = some c) (hfresh : d.Unused d.nextId) (hrunning : c.running = true)
    (hresult : givesUp result = true) (hclear : ClearsUp trace)
    (h : Converses conduct (replace stopTimeout key image) d trace result t) :
    ∃ cause err, result = .error err ∧ Restarted d before c.stopped after cause err t := by
  obtain ⟨cause, err, left, heq, hleft, hend⟩ :=
    exists_left_of_replace hl hfind hfresh hrunning hresult h
  rw [hleft.eq_nil hclear, List.append_nil] at hend
  exact ⟨cause, err, heq, hend⟩

/-- Whichever calls fail, a running container that could not be replaced stays in its place among the
others, and nothing else is changed: it was started again when the result says so, is stopped when
the result says that this failed, and was never touched when it could not be looked at or stopped. -/
theorem replace_restores {stopTimeout : Duration} {key : String}
    {result : Except ReplaceError Replaced} (hd : d.Sound) (hfind : d.find? key = some c)
    (hrunning : c.running = true)
    (h : Converses conduct (replace stopTimeout key image) d trace result t) :
    ∃ before after, d.containers = before ++ c :: after ∧
      Undone d before c after trace result t := by
  obtain ⟨before, after, hl⟩ := exists_locates (hd.find? (List.mem_of_find?_eq_some hfind))
  have haftermath := replace_aftermath hl hfind hd.unused_nextId (h.runsIn fun _ _ _ _ hq => hq)
  refine ⟨before, after, hl.containers_eq, ?_, ?_, ?_, ?_⟩
  · rintro name cause rfl hclear
    obtain ⟨cause, err, heq, hend⟩ :=
      restarted_of_replace hl hfind hd.unused_nextId hrunning rfl hclear h
    cases heq
    cases hend with
    | again now created =>
        refine ⟨_, _, ?_, rfl⟩
        simp [hrunning, MemoryContainer.stopped]
  · rintro name cause e rfl hclear
    obtain ⟨cause, err, heq, hend⟩ :=
      restarted_of_replace hl hfind hd.unused_nextId hrunning rfl hclear h
    cases heq
    cases hend with
    | failed e created => rfl
  · rintro container e rfl
    exact haftermath.eq_of_notInspected
  · rintro container e rfl
    exact haftermath.eq_of_notStopped

/-- The conversation of a replacement in the world around a daemon. -/
abbrev conversationAround (d : MemoryDaemon) (key image : String) (faults : List FaultRule) :
    List UpdateExchange × Except ReplaceError Replaced × UpdateWorld MemoryStore :=
  Program.converse (I := updateInterface) (UpdateWorld.handle ⟨MemoryStore.handle⟩)
    (replace .zero key image) (.around d faults)

theorem converses_around (d : MemoryDaemon) (key image : String) (faults : List FaultRule) :
    Converses conduct (replace .zero key image) d (conversationAround d key image faults).1
      (conversationAround d key image faults).2.1
      (conversationAround d key image faults).2.2.daemon :=
  converses_view (I := updateInterface) _ UpdateWorld.daemon
    (UpdateWorld.handle_conduct ⟨MemoryStore.handle⟩) (replace .zero key image) (.around d faults)

/-- The replacement exits and is removed, and the container before it runs again. -/
theorem replace_restores_exitingDaemon :
    let c := web [(Label.uptimeKey, "1s")]
    let d := exitingDaemon c
    let (trace, result, w) := conversationAround d "web" "app:2" []
    d.Sound ∧ d.find? "web" = some c ∧ c.running = true ∧ ClearsUp trace ∧
      isRolledBack result = true ∧
      ∃ before after, d.containers = before ++ c :: after ∧
        Undone d before c after trace result w.daemon := by
  have hd : (exitingDaemon (web [(Label.uptimeKey, "1s")])).Sound :=
    exitingDaemon_sound rfl rfl (by decide) (by decide)
  exact ⟨hd, rfl, rfl, by decide +kernel, by decide +kernel,
    replace_restores hd rfl rfl (converses_around _ "web" "app:2" [])⟩

theorem exists_of_isRolledBack {result : Except ReplaceError Replaced}
    (h : isRolledBack result = true) : ∃ name cause, result = .error (.rolledBack name cause) := by
  unfold isRolledBack at h
  split at h
  · exact ⟨_, _, rfl⟩
  · cases h

/-- A container that exits as soon as it is started does not run after it was started again, and the
result says only that it was. -/
theorem exists_rolledBack_not_running :
    ∃ d t c trace name cause, d.Sound ∧ d.find? "web" = some c ∧ c.running = true ∧
      Converses conduct (replace .zero "web" "app:2") d trace (.error (.rolledBack name cause)) t ∧
      ClearsUp trace ∧
      t.containers.map MemoryContainer.running ≠ d.containers.map MemoryContainer.running := by
  let d : MemoryDaemon := { exitingDaemon (web []) with crashing := ["web"] }
  let full : FaultRule := ⟨.startingWith "create:", .unexpected "full", 0, none⟩
  have hsound := exitingDaemon_sound (c := web []) rfl rfl (by decide) (by decide)
  have hd : d.Sound := ⟨hsound.1, hsound.2, hsound.3, hsound.4, hsound.5⟩
  have hconverse := converses_around d "web" "app:2" [full]
  have hback : isRolledBack (conversationAround d "web" "app:2" [full]).2.1 = true := by
    decide +kernel
  obtain ⟨name, cause, hresult⟩ := exists_of_isRolledBack hback
  rw [hresult] at hconverse
  exact ⟨d, _, web [], _, name, cause, hd, rfl, rfl, hconverse, by decide +kernel,
    by decide +kernel⟩

end ContainerFleet.Replacement
