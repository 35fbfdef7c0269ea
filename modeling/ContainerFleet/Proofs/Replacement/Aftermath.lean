import ContainerFleet.Proofs.Daemon.Identity
import ContainerFleet.Proofs.Update.Health

/-!
What a replacement leaves in a daemon in memory, whichever of its calls fail. Main statement:
`replace_aftermath`. The container that is replaced, the containers before it and those after it are
followed through the list; no other one is changed.
-/

namespace ContainerFleet.Replacement

open Program MemoryDaemon

variable {d t : MemoryDaemon} {before after : List MemoryContainer} {c n : MemoryContainer}

/-- How far a replacement `n` got, and the daemon then. -/
inductive Attempted (d : MemoryDaemon) (n : MemoryContainer) (labels : LabelSet) :
    Attempt → MemoryDaemon → Prop where
  | notCreated (e : DaemonError) : Attempted d n labels (.failed none (.create e)) d
  | notStarted (e : DaemonError) :
      Attempted d n labels (.failed (some n.id) (.start e))
        (d.holding (d.containers ++ [n]) (d.created + 1))
  | unhealthy (e : HealthError) (now : Moment) :
      Attempted d n labels (.failed (some n.id) (.health e))
        (d.holding (d.containers ++ [d.started now n]) (d.created + 1))
  | healthy (now : Moment)
      (seen : labels.requiredUptime? ≠ none → (d.started now n).running = true) :
      Attempted d n labels (.healthy n.id)
        (d.holding (d.containers ++ [d.started now n]) (d.created + 1))

theorem attempt_attempted {old : ContainerDetails} {image : String} {out : Attempt}
    (hn : d.newContainer (temporaryName old.name) (old.spec.withImage image) = n)
    (hfresh : d.Unused d.nextId) (h : MemoryRun (attempt old image) d out t) :
    Attempted d n (LabelSet.ofRaw old.labels) out t := by
  obtain ⟨reply, d₁, hcreate, h⟩ := runsIn_bind_iff.1 h
  replace hcreate := memoryRun_daemon_iff.1 hcreate
  cases reply with
  | error e =>
      obtain ⟨rfl, rfl⟩ := runsIn_pure_iff.1 h
      rw [hcreate.eq_of_error]
      exact .notCreated e
  | ok newId =>
      obtain ⟨-, hnewId, rfl⟩ := hcreate.of_create
      have hid : n.id = newId := by rw [← hn, hnewId]; rfl
      rw [hn] at h
      subst hid
      have hjoined : (d.holding (d.containers ++ [n]) (d.created + 1)).Locates d.containers n [] :=
        Unused.locates (hnewId ▸ hfresh)
      obtain ⟨reply, d₂, hstart, h⟩ := runsIn_bind_iff.1 h
      replace hstart := memoryRun_daemon_iff.1 hstart
      cases reply with
      | error e =>
          obtain ⟨rfl, rfl⟩ := runsIn_pure_iff.1 h
          rw [hstart.eq_of_error]
          exact .notStarted e
      | ok _ =>
          obtain ⟨now, rfl⟩ := hjoined.of_start hstart
          obtain ⟨verdict, d₃, hcheck, h⟩ := runsIn_bind_iff.1 h
          have hstill := (Health.still_check _ _).eq hcheck
          cases verdict with
          | error e =>
              obtain ⟨rfl, rfl⟩ := runsIn_pure_iff.1 h
              rw [hstill]
              exact .unhealthy e now
          | ok _ =>
              obtain ⟨rfl, rfl⟩ := runsIn_pure_iff.1 h
              rw [hstill]
              refine .healthy now fun hlabel => ?_
              obtain ⟨required, hrequired⟩ := Option.ne_none_iff_exists'.1 hlabel
              obtain ⟨seen, hfind, hrunning⟩ := Health.running_of_check hrequired hcheck
              have hplace := hjoined.of_id_eq (f := d.started now n) (k := d.created + 1) rfl
              cases hplace.find?.symm.trans hfind
              exact hrunning

/-- The last step of a rollback: the old container is started again, or not. -/
theorem rollBack_none {old : ContainerDetails} {cause : ReplaceFailure} {err : ReplaceError}
    (hl : d.Locates before c after) (hid : old.id = c.id)
    (h : MemoryRun (rollBack old none cause) d err t) :
    (∃ now, err = .rolledBack old.name cause ∧
      t = d.holding (before ++ d.started now c :: after) d.created) ∨
    (∃ e, err = .rollbackFailed old.name cause e ∧ t = d) := by
  obtain ⟨reply, d₁, hstart, h⟩ := runsIn_bind_iff.1 h
  replace hstart := memoryRun_daemon_iff.1 hstart
  rw [hid] at hstart
  cases reply with
  | error e =>
      obtain ⟨rfl, rfl⟩ := runsIn_pure_iff.1 h
      exact .inr ⟨e, rfl, hstart.eq_of_error⟩
  | ok _ =>
      obtain ⟨rfl, rfl⟩ := runsIn_pure_iff.1 h
      obtain ⟨now, rfl⟩ := hl.of_start hstart
      exact .inl ⟨now, rfl, rfl⟩

/-- A rollback with a replacement `m` that was created: it is there still when removing it failed. -/
theorem rollBack_some {m : MemoryContainer} {old : ContainerDetails} {cause : ReplaceFailure}
    {err : ReplaceError} (hl : d.Locates before c after) (hm : d.Unused m.id) (hid : old.id = c.id)
    (h : MemoryRun (rollBack old (some m.id) cause)
      (d.holding (d.containers ++ [m]) (d.created + 1)) err t) :
    ∃ left, (left = [] ∨ left = [m]) ∧
      ((∃ now, err = .rolledBack old.name cause ∧
        t = d.holding (before ++ d.started now c :: (after ++ left)) (d.created + 1)) ∨
      (∃ e, err = .rollbackFailed old.name cause e ∧
        t = d.holding (before ++ c :: (after ++ left)) (d.created + 1))) := by
  obtain ⟨reply, d₁, hremove, h⟩ := runsIn_bind_iff.1 h
  replace hremove := memoryRun_daemon_iff.1 hremove
  have hmem : d.containers ++ [m] = before ++ c :: (after ++ [m]) := by
    rw [hl.containers_eq, List.append_assoc, List.cons_append]
  have hplace : ∀ left,
      (d.holding (before ++ c :: (after ++ left)) (d.created + 1)).Locates before c
        (after ++ left) := fun left => ⟨rfl, hl.before_isCalled⟩
  cases reply with
  | error e =>
      rw [hremove.eq_of_error, hmem] at h
      exact ⟨[m], .inr rfl, rollBack_none (hplace [m]) hid h⟩
  | ok _ =>
      have hgone : d₁ = d.holding (before ++ c :: (after ++ [])) (d.created + 1) := by
        rw [(Unused.locates hm).of_remove hremove, List.append_nil, List.append_nil,
          ← hl.containers_eq]
        rfl
      rw [hgone] at h
      exact ⟨[], .inl rfl, rollBack_none (hplace []) hid h⟩

/-- What is left of a replacement `n` that was given up, and how many containers were created. -/
inductive Leftover (d : MemoryDaemon) (n : MemoryContainer) : Nat → List MemoryContainer → Prop where
  | notCreated : Leftover d n d.created []
  | removed : Leftover d n (d.created + 1) []
  | created : Leftover d n (d.created + 1) [n]
  | started (now : Moment) : Leftover d n (d.created + 1) [d.started now n]

theorem rollBack_leftover {old : ContainerDetails} {labels : LabelSet} {newId : Option String}
    {cause : ReplaceFailure} {err : ReplaceError} {u : MemoryDaemon}
    (hl : d.Locates before c after) (hfresh : d.Unused n.id) (hid : old.id = c.id)
    (hattempt : Attempted d n labels (.failed newId cause) u)
    (h : MemoryRun (rollBack old newId cause) u err t) :
    ∃ created left, Leftover d n created left ∧
      ((∃ now, err = .rolledBack old.name cause ∧
        t = d.holding (before ++ d.started now c :: (after ++ left)) created) ∨
      (∃ e, err = .rollbackFailed old.name cause e ∧
        t = d.holding (before ++ c :: (after ++ left)) created)) := by
  cases hattempt with
  | notCreated e =>
      refine ⟨d.created, [], .notCreated, ?_⟩
      rcases rollBack_none hl hid h with ⟨now, rfl, rfl⟩ | ⟨e, rfl, rfl⟩
      · exact .inl ⟨now, rfl, by rw [List.append_nil]⟩
      · refine .inr ⟨e, rfl, ?_⟩
        rw [List.append_nil, ← hl.containers_eq]
        rfl
  | notStarted e =>
      obtain ⟨left, hleft, hend⟩ := rollBack_some hl hfresh hid h
      rcases hleft with rfl | rfl
      · exact ⟨_, _, .removed, hend⟩
      · exact ⟨_, _, .created, hend⟩
  | unhealthy e now =>
      obtain ⟨left, hleft, hend⟩ := rollBack_some (m := d.started now n) hl hfresh hid h
      rcases hleft with rfl | rfl
      · exact ⟨_, _, .removed, hend⟩
      · exact ⟨_, _, .started now, hend⟩

/-- A replacement of `c` that was started and found healthy; it runs if the labels ask for some
uptime. -/
def Healthy (d : MemoryDaemon) (c : MemoryContainer) (image : String) (n : MemoryContainer) : Prop :=
  (∃ now, n = d.started now (d.replacementOf (temporaryName c.name) c image)) ∧
    ((LabelSet.ofRaw c.labels).requiredUptime? ≠ none → n.running = true)

/-- The results of replacing `c`, which stands between some other containers, and the daemon after
each of them. -/
inductive Aftermath (d : MemoryDaemon) (before : List MemoryContainer) (c : MemoryContainer)
    (after : List MemoryContainer) (image : String) :
    Except ReplaceError Replaced → MemoryDaemon → Prop where
  | notInspected (key : String) (e : DaemonError) :
      Aftermath d before c after image (.error (.step .inspect key e)) d
  | notStopped (hrunning : c.running = true) (e : DaemonError) :
      Aftermath d before c after image (.error (.step .stop c.name e)) d
  | notRemoved (hstopped : c.running = false) (e : DaemonError) :
      Aftermath d before c after image (.error (.step .remove c.name e)) d
  | notRecreated (hstopped : c.running = false) (e : DaemonError) :
      Aftermath d before c after image (.error (.step .create c.name e))
        (d.holding (before ++ after) d.created)
  | recreated (hstopped : c.running = false) :
      Aftermath d before c after image (.ok ⟨c.id, d.nextId, false⟩)
        (d.holding (before ++ after ++ [d.replacementOf c.name c image]) (d.created + 1))
  | rolledBack (hrunning : c.running = true) (cause : ReplaceFailure) (now : Moment)
      {created : Nat} {left : List MemoryContainer}
      (hleft : Leftover d (d.replacementOf (temporaryName c.name) c image) created left) :
      Aftermath d before c after image (.error (.rolledBack c.name cause))
        (d.holding (before ++ d.started now c :: (after ++ left)) created)
  | notRestarted (hrunning : c.running = true) (cause : ReplaceFailure) (e : DaemonError)
      {created : Nat} {left : List MemoryContainer}
      (hleft : Leftover d (d.replacementOf (temporaryName c.name) c image) created left) :
      Aftermath d before c after image (.error (.rollbackFailed c.name cause e))
        (d.holding (before ++ c.stopped :: (after ++ left)) created)
  | oldNotRemoved (hrunning : c.running = true) (e : DaemonError) {n : MemoryContainer}
      (hn : Healthy d c image n) :
      Aftermath d before c after image (.error (.step .remove c.name e))
        (d.holding (before ++ c.stopped :: (after ++ [n])) (d.created + 1))
  | notRenamed (hrunning : c.running = true) (e : DaemonError) {n : MemoryContainer}
      (hn : Healthy d c image n) :
      Aftermath d before c after image (.error (.step .rename c.name e))
        (d.holding (before ++ after ++ [n]) (d.created + 1))
  | tookOver (hrunning : c.running = true) {n : MemoryContainer} (hn : Healthy d c image n) :
      Aftermath d before c after image (.ok ⟨c.id, d.nextId, true⟩)
        (d.holding (before ++ after ++ [n.renamed c.name]) (d.created + 1))

variable {image : String}

theorem Healthy.id_eq (hn : Healthy d c image n) : n.id = d.nextId := by
  obtain ⟨⟨now, rfl⟩, -⟩ := hn
  rfl

/-- A healthy replacement takes the place of the stopped container, or stays beside it, or stays
alone under its temporary name. -/
theorem takeOver_aftermath (old : ContainerDetails) {result : Except ReplaceError Replaced}
    (hl : d.Locates before c after) (hfresh : d.Unused d.nextId) (hrunning : c.running = true)
    (hn : Healthy d c image n) (hid : old.id = c.id) (hname : old.name = c.name)
    (h : MemoryRun (takeOver old d.nextId)
      (d.holding (before ++ c.stopped :: (after ++ [n])) (d.created + 1)) result t) :
    Aftermath d before c after image result t := by
  have hplace : (d.holding (before ++ c.stopped :: (after ++ [n])) (d.created + 1)).Locates before
      c.stopped (after ++ [n]) := ⟨rfl, hl.before_isCalled⟩
  obtain ⟨reply, d₁, hremove, h⟩ := runsIn_bind_iff.1 h
  replace hremove := memoryRun_daemon_iff.1 hremove
  rw [show old.id = c.stopped.id from hid] at hremove
  cases reply with
  | error e =>
      obtain ⟨rfl, rfl⟩ := runsIn_pure_iff.1 h
      rw [hremove.eq_of_error, hname]
      exact .oldNotRemoved hrunning e hn
  | ok _ =>
      have hd₁ := hplace.of_remove hremove
      have hunused : ∀ o ∈ before ++ after, o.isCalled n.id = false := by
        intro o ho
        rw [hn.id_eq]
        exact hfresh o (hl.mem_of_mem ho)
      have hnew : d₁.Locates (before ++ after) n [] := by
        refine ⟨?_, hunused⟩
        rw [hd₁, ← List.append_assoc]
        rfl
      obtain ⟨reply, d₂, hrename, h⟩ := runsIn_bind_iff.1 h
      replace hrename := memoryRun_daemon_iff.1 hrename
      rw [← hn.id_eq, hname] at hrename
      cases reply with
      | error e =>
          obtain ⟨rfl, rfl⟩ := runsIn_pure_iff.1 h
          rw [hrename.eq_of_error, hd₁, hname, ← List.append_assoc]
          exact .notRenamed hrunning e hn
      | ok _ =>
          obtain ⟨rfl, rfl⟩ := runsIn_pure_iff.1 h
          rw [hnew.of_rename hrename, hd₁, hid]
          exact .tookOver hrunning hn

theorem replaceRunning_aftermath {seenAt : Moment} {result : Except ReplaceError Replaced}
    (hl : d.Locates before c after) (hfresh : d.Unused d.nextId) (hrunning : c.running = true)
    (h : MemoryRun (replaceRunning (c.details seenAt) image)
      (d.holding (before ++ c.stopped :: after) d.created) result t) :
    Aftermath d before c after image result t := by
  have hplace := hl.of_id_eq (f := c.stopped) (k := d.created) rfl
  have hfresh' : (d.holding (before ++ c.stopped :: after) d.created).Unused d.nextId :=
    hfresh.of_same hl c.same_stopped
  obtain ⟨out, u, hattempt, h⟩ := runsIn_bind_iff.1 h
  have hattempted := attempt_attempted
    (n := d.replacementOf (temporaryName c.name) c image) rfl hfresh' hattempt
  cases out with
  | healthy newId =>
      cases hattempted with
      | healthy now seen =>
          refine takeOver_aftermath (c.details seenAt) hl hfresh hrunning
            ⟨⟨now, rfl⟩, seen⟩ rfl rfl ?_
          rw [← List.cons_append, ← List.append_assoc]
          exact h
  | failed newId cause =>
      obtain ⟨err, u', hback, h⟩ := runsIn_bind_iff.1 h
      obtain ⟨rfl, rfl⟩ := runsIn_pure_iff.1 h
      obtain ⟨created, left, hleft, hend⟩ :=
        rollBack_leftover hplace hfresh' rfl hattempted hback
      have hleft' : Leftover d (d.replacementOf (temporaryName c.name) c image) created left := by
        cases hleft with
        | notCreated => exact .notCreated
        | removed => exact .removed
        | created => exact .created
        | started now => exact .started now
      rcases hend with ⟨now, rfl, rfl⟩ | ⟨e, rfl, rfl⟩
      · exact .rolledBack hrunning cause now hleft'
      · exact .notRestarted hrunning cause e hleft'

theorem replaceStopped_aftermath {now : Moment} {result : Except ReplaceError Replaced}
    (hl : d.Locates before c after) (hstopped : c.running = false)
    (h : MemoryRun (replaceStopped (c.details now) image) d result t) :
    Aftermath d before c after image result t := by
  obtain ⟨reply, d₁, hremove, h⟩ := runsIn_bind_iff.1 h
  replace hremove := memoryRun_daemon_iff.1 hremove
  cases reply with
  | error e =>
      obtain ⟨rfl, rfl⟩ := runsIn_pure_iff.1 h
      rw [hremove.eq_of_error]
      exact .notRemoved hstopped e
  | ok _ =>
      obtain ⟨reply, d₂, hcreate, h⟩ := runsIn_bind_iff.1 h
      replace hcreate := memoryRun_daemon_iff.1 hcreate
      rw [hl.of_remove hremove] at hcreate
      cases reply with
      | error e =>
          obtain ⟨rfl, rfl⟩ := runsIn_pure_iff.1 h
          rw [hcreate.eq_of_error]
          exact .notRecreated hstopped e
      | ok newId =>
          obtain ⟨rfl, rfl⟩ := runsIn_pure_iff.1 h
          obtain ⟨-, rfl, rfl⟩ := hcreate.of_create
          exact .recreated hstopped

/-- Whatever fails, a replacement ends in one of these ways. -/
theorem replace_aftermath {stopTimeout : Duration} {key : String}
    {result : Except ReplaceError Replaced} (hl : d.Locates before c after)
    (hfind : d.find? key = some c) (hfresh : d.Unused d.nextId)
    (h : MemoryRun (replace stopTimeout key image) d result t) :
    Aftermath d before c after image result t := by
  obtain ⟨reply, d₁, hinspect, h⟩ := runsIn_bind_iff.1 h
  replace hinspect := memoryRun_daemon_iff.1 hinspect
  cases reply with
  | error e =>
      obtain ⟨rfl, rfl⟩ := runsIn_pure_iff.1 h
      rw [hinspect.eq_of_error]
      exact .notInspected key e
  | ok old =>
      obtain ⟨rfl, seen, now, hseen, rfl⟩ := hinspect.of_inspect
      cases hfind.symm.trans hseen
      dsimp only at h
      split at h
      · next hrunning =>
          obtain ⟨reply, d₂, hstop, h⟩ := runsIn_bind_iff.1 h
          replace hstop := memoryRun_daemon_iff.1 hstop
          cases reply with
          | error e =>
              obtain ⟨rfl, rfl⟩ := runsIn_pure_iff.1 h
              rw [hstop.eq_of_error]
              exact .notStopped hrunning e
          | ok _ =>
              rw [hl.of_stop hstop] at h
              exact replaceRunning_aftermath hl hfresh hrunning h
      · next hstopped =>
          exact replaceStopped_aftermath hl (Bool.eq_false_iff.2 hstopped) h

end ContainerFleet.Replacement
