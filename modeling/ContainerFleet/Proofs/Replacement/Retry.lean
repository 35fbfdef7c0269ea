import ContainerFleet.Proofs.Daemon.Service
import ContainerFleet.Proofs.Replacement.Name
import ContainerFleet.Proofs.Replacement.Restored

/-!
What a rolled back attempt leaves behind, and what the next attempt on the same container makes of it.
Main statement: `leavesNothing_iff`. That the replacement could not be removed is not said in the
result, and what is left has the temporary name, which every later attempt needs.
-/

namespace ContainerFleet.Replacement

open Program MemoryDaemon

/-- Why a replacement was given up, if it was. -/
def cause? : Except ReplaceError Replaced → Option ReplaceFailure
  | .error (.rolledBack _ cause) => some cause
  | .error (.rollbackFailed _ cause _) => some cause
  | _ => none

/-- The container with this name could not be replaced because the temporary name of its replacement
is in use. -/
def IsBlocked (name : String) (result : Except ReplaceError Replaced) : Prop :=
  cause? result = some (.create (nameTaken (temporaryName name)))

instance (name : String) (result : Except ReplaceError Replaced) : Decidable (IsBlocked name result) :=
  inferInstanceAs (Decidable (cause? result = some (.create (nameTaken (temporaryName name)))))

/-- Some container has the temporary name of a replacement. -/
def HoldsTemporary (d : MemoryDaemon) (name : String) : Prop :=
  temporaryName name ∈ d.containers.map MemoryContainer.name

instance (d : MemoryDaemon) (name : String) : Decidable (HoldsTemporary d name) :=
  inferInstanceAs (Decidable (temporaryName name ∈ d.containers.map MemoryContainer.name))

/-- An attempt to replace `c` that began with `d` and ended with `t` left nothing behind: what it
created is gone, no container has got the temporary name, and where that name was free before, it does
not stop a later attempt in which the daemon carries out every call. -/
structure LeavesNothing (d : MemoryDaemon) (c : MemoryContainer) (trace : List UpdateExchange)
    (t : MemoryDaemon) : Prop where
  created_gone : ∀ id ∈ trace.filterMap createdId?, ∀ o ∈ t.containers, o.id ≠ id
  name_free : ∀ o ∈ t.containers, o.name = temporaryName c.name →
    ∃ p ∈ d.containers, p.id = o.id ∧ p.name = temporaryName c.name
  repeatable : ¬ HoldsTemporary d c.name → ∀ stopTimeout image result u,
    RunsIn service (replace stopTimeout c.id image) t result u → ¬ IsBlocked c.name result

variable {d t u : MemoryDaemon} {before after left : List MemoryContainer} {c n : MemoryContainer}
  {image : String} {trace : List UpdateExchange} {result : Except ReplaceError Replaced}

section Next

/-! The next attempt, in which the daemon carries out every call. -/

theorem cause?_eq_none (h : givesUp result = false) : cause? result = none := by
  cases result with
  | ok done => rfl
  | error e =>
      cases e with
      | step failed container e => rfl
      | rolledBack container cause => cases h
      | rollbackFailed container cause e => cases h

theorem cause?_of_rollBack {old : ContainerDetails} {newId : Option String} {cause : ReplaceFailure}
    {err : ReplaceError} (h : Runs (rollBack old newId cause) trace err) :
    cause? (.error err) = some cause := by
  cases newId with
  | none => cases runs_rollBack_none_iff.1 h <;> rfl
  | some newId =>
      obtain ⟨removed, last, -, hlast⟩ := (runs_rollBack_some_iff newId).1 h
      cases hlast <;> rfl

/-- The only reason for which a daemon that carries out every call creates no container. -/
theorem create_refused_iff {now : Moment} {name : String} {spec : ContainerSpec}
    {reply : (DaemonCall.create name spec).Reply}
    (h : d.perform now (.create name spec) = (reply, t)) :
    (reply = .error (nameTaken name) ↔ name ∈ d.containers.map MemoryContainer.name) ∧
      ∀ e, reply = .error e → e = nameTaken name := by
  simp only [perform] at h
  split at h
  · next htaken =>
      cases h
      refine ⟨iff_of_true rfl ?_, fun e he => (Except.error.inj he).symm⟩
      simpa using htaken
  · next hfree =>
      cases h
      refine ⟨iff_of_false ?_ ?_, ?_⟩
      · intro heq
        cases heq
      · simpa using hfree
      · intro e heq
        cases heq

theorem attempt_refused_iff {old : ContainerDetails} {out : Attempt}
    (h : RunsIn service (attempt old image) d out t) :
    (∃ newId, out = .failed newId (.create (nameTaken (temporaryName old.name)))) ↔
      HoldsTemporary d old.name := by
  obtain ⟨reply, d₁, hcreate, h⟩ := runsIn_bind_iff.1 h
  obtain ⟨now, hcreate⟩ := runsIn_service_daemon_iff.1 hcreate
  obtain ⟨hrefused, herror⟩ := create_refused_iff hcreate
  rw [HoldsTemporary, ← hrefused]
  cases reply with
  | error e =>
      obtain ⟨rfl, -⟩ := runsIn_pure_iff.1 h
      obtain rfl := herror e rfl
      exact iff_of_true ⟨none, rfl⟩ rfl
  | ok newId =>
      refine iff_of_false ?_ nofun
      obtain ⟨reply, d₂, -, h⟩ := runsIn_bind_iff.1 h
      cases reply with
      | error e =>
          obtain ⟨rfl, -⟩ := runsIn_pure_iff.1 h
          exact nofun
      | ok _ =>
          obtain ⟨verdict, d₃, -, h⟩ := runsIn_bind_iff.1 h
          cases verdict with
          | error e =>
              obtain ⟨rfl, -⟩ := runsIn_pure_iff.1 h
              exact nofun
          | ok _ =>
              obtain ⟨rfl, -⟩ := runsIn_pure_iff.1 h
              exact nofun

theorem isBlocked_of_replaceRunning_iff {old : ContainerDetails}
    (h : RunsIn service (replaceRunning old image) d result t) :
    IsBlocked old.name result ↔ HoldsTemporary d old.name := by
  obtain ⟨out, d₁, hattempt, h⟩ := runsIn_bind_iff.1 h
  rw [← attempt_refused_iff hattempt]
  cases out with
  | healthy newId =>
      obtain ⟨rest, hrest⟩ := h.exists_converses
      rw [IsBlocked, cause?_eq_none (givesUp_of_takeOver hrest.runs)]
      simp
  | failed newId cause =>
      obtain ⟨err, d₂, hback, h⟩ := runsIn_bind_iff.1 h
      obtain ⟨rfl, -⟩ := runsIn_pure_iff.1 h
      obtain ⟨undone, hundone⟩ := hback.exists_converses
      rw [IsBlocked, cause?_of_rollBack hundone.runs]
      simp

theorem givesUp_of_replaceStopped {old : ContainerDetails}
    (h : Runs (replaceStopped old image) trace result) : givesUp result = false := by
  obtain ⟨v, w, removed, -, -, h⟩ := runs_bind_iff.1 h
  cases removed with
  | error e =>
      rw [(runs_pure_iff.1 h).2]
      rfl
  | ok _ =>
      obtain ⟨x, y, created, -, -, h⟩ := runs_bind_iff.1 h
      cases created with
      | error e =>
          rw [(runs_pure_iff.1 h).2]
          rfl
      | ok newId =>
          rw [(runs_pure_iff.1 h).2]
          rfl

/-- An attempt in which the daemon carries out every call is stopped by the temporary name exactly when
some container has it. A container that does not run needs no temporary name. -/
theorem isBlocked_iff {stopTimeout : Duration} (hfind : d.find? c.id = some c)
    (h : RunsIn service (replace stopTimeout c.id image) d result t) :
    IsBlocked c.name result ↔ c.running = true ∧ HoldsTemporary d c.name := by
  obtain ⟨seen, d₁, hinspect, h⟩ := runsIn_bind_iff.1 h
  obtain ⟨now, hinspect⟩ := runsIn_service_daemon_iff.1 hinspect
  rw [perform, hfind] at hinspect
  cases hinspect
  dsimp only at h
  split at h
  · next hrunning =>
      obtain ⟨stopped, d₂, hstop, h⟩ := runsIn_bind_iff.1 h
      obtain ⟨now', hstop⟩ := runsIn_service_daemon_iff.1 hstop
      rw [perform, show (c.details now).id = c.id from rfl, hfind] at hstop
      cases hstop
      have hnames : HoldsTemporary (d.modify c.id MemoryContainer.stopped) c.name ↔
          HoldsTemporary d c.name := by
        rw [HoldsTemporary, HoldsTemporary, MemoryDaemon.modify,
          map_name_modifyFirst (f := MemoryContainer.stopped) fun _ => rfl]
      exact ((isBlocked_of_replaceRunning_iff h).trans hnames).trans (iff_and_self.2 fun _ => hrunning)
  · next hstopped =>
      obtain ⟨rest, hrest⟩ := h.exists_converses
      rw [IsBlocked, cause?_eq_none (givesUp_of_replaceStopped hrest.runs)]
      refine iff_of_false ?_ fun hboth => hstopped hboth.1
      intro heq
      cases heq

end Next

theorem LeftBehind.name_eq (h : LeftBehind n trace left) : ∀ m ∈ left, m.name = n.name := by
  intro m hmem
  cases h with
  | nothing _ _ => cases hmem
  | replacement hm _ _ =>
      obtain rfl := List.mem_singleton.1 hmem
      exact hm.name_eq

theorem LeftBehind.eq_nil_iff (h : LeftBehind n trace left) : left = [] ↔ ClearsUp trace := by
  refine ⟨?_, h.eq_nil⟩
  rintro rfl
  cases h with
  | nothing _ hclear => exact hclear

theorem LeftBehind.createdId_eq (h : LeftBehind n trace left) :
    ∀ id ∈ trace.filterMap createdId?, id = n.id := by
  cases h with
  | nothing hids _ => exact hids
  | replacement hm hcreated _ =>
      intro id hid
      rw [hcreated] at hid
      rw [List.mem_singleton.1 hid, hm.id_eq]

theorem exists_same_of_mem {o p : MemoryContainer} (hl : d.Locates before c after) (ho : o.Same c)
    (hp : p ∈ before ++ o :: after) : ∃ q ∈ d.containers, q.id = p.id ∧ q.name = p.name := by
  rcases List.mem_append.1 hp with hp | hp
  · exact ⟨p, hl.mem_of_mem (List.mem_append_left after hp), rfl, rfl⟩
  · rcases List.mem_cons.1 hp with rfl | hp
    · exact ⟨c, hl.mem, ho.id_eq.symm, ho.name_eq.symm⟩
    · exact ⟨p, hl.mem_of_mem (List.mem_append_right before hp), rfl, rfl⟩

/-- Where a container was started again, with what was left of its replacement behind the others, the
temporary name is in use if it was before, or if anything was left. -/
theorem holdsTemporary_iff {k : Nat} {o : MemoryContainer} (hl : d.Locates before c after)
    (ho : o.Same c) (hleft : ∀ m ∈ left, m.name = temporaryName c.name) :
    HoldsTemporary (d.holding (before ++ o :: (after ++ left)) k) c.name ↔
      HoldsTemporary d c.name ∨ left ≠ [] := by
  have hnames : ∀ m ∈ left, temporaryName c.name = m.name := fun m hm => (hleft m hm).symm
  have hlast : temporaryName c.name ∈ left.map MemoryContainer.name ↔ left ≠ [] := by
    cases left with
    | nil => simp
    | cons m left => simp [hnames m List.mem_cons_self]
  simp only [HoldsTemporary, holding, hl.containers_eq, List.map_append, List.map_cons, List.mem_append,
    List.mem_cons, ho.name_eq, hlast]
  tauto

theorem LeavesNothing.clearsUp (h : LeavesNothing d c trace t) (hleft : LeftBehind n trace left)
    (hmem : ∀ m ∈ left, m ∈ t.containers) : ClearsUp trace := by
  cases hleft with
  | nothing _ hclear => exact hclear
  | @replacement m _ hcreated _ =>
      have hgone := h.created_gone m.id (hcreated ▸ List.mem_singleton_self m.id)
      exact absurd rfl (hgone m (hmem m (List.mem_singleton_self m)))

/-- What a later attempt, in which the daemon carries out every call, makes of what a rollback left. -/
theorem isBlocked_of_left_iff {stopTimeout : Duration} {again : String} {now : Moment} {k : Nat}
    (hl : d.Locates before c after)
    (hleft : LeftBehind (d.replacementOf (temporaryName c.name) c image) trace left)
    (h : RunsIn service (replace stopTimeout c.id again)
      (d.holding (before ++ d.started now c.stopped :: (after ++ left)) k) result u) :
    IsBlocked c.name result ↔
      c.name ∉ d.crashing ∧ (HoldsTemporary d c.name ∨ ¬ ClearsUp trace) := by
  let o := d.started now c.stopped
  have ho : o.Same c := rfl
  have hplace : (d.holding (before ++ o :: (after ++ left)) k).Locates before o (after ++ left) :=
    ⟨rfl, hl.before_isCalled⟩
  have hrunning : o.running = true ↔ c.name ∉ d.crashing := by
    simp [o, started, MemoryContainer.stopped]
  calc IsBlocked c.name result
    _ ↔ o.running = true ∧ HoldsTemporary (d.holding (before ++ o :: (after ++ left)) k) c.name :=
      isBlocked_iff hplace.find? h
    _ ↔ c.name ∉ d.crashing ∧ (HoldsTemporary d c.name ∨ left ≠ []) := by
      rw [hrunning, holdsTemporary_iff hl ho hleft.name_eq]
    _ ↔ c.name ∉ d.crashing ∧ (HoldsTemporary d c.name ∨ ¬ ClearsUp trace) := by
      rw [Ne, hleft.eq_nil_iff]

/-- A rolled back attempt leaves nothing behind exactly when the replacement, if one was created, could be
removed. A later attempt in which the daemon carries out every call is stopped by the temporary name
exactly when a container had it before, or the replacement was left, unless the old container exited
as it was started again and needs none. -/
theorem leavesNothing_iff {stopTimeout : Duration} {key : String} (hd : d.Sound)
    (hfind : d.find? key = some c) (hrunning : c.running = true)
    (h : Converses conduct (replace stopTimeout key image) d trace result t)
    (hback : isRolledBack result = true) :
    (LeavesNothing d c trace t ↔ ClearsUp trace) ∧
      ∀ stopTimeout image result u, RunsIn service (replace stopTimeout c.id image) t result u →
        (IsBlocked c.name result ↔
          c.name ∉ d.crashing ∧ (HoldsTemporary d c.name ∨ ¬ ClearsUp trace)) := by
  obtain ⟨before, after, hl⟩ := exists_locates (hd.find? (List.mem_of_find?_eq_some hfind))
  obtain ⟨name, cause, rfl⟩ := exists_of_isRolledBack hback
  obtain ⟨cause, err, left, heq, hleft, hend⟩ :=
    exists_left_of_replace hl hfind hd.unused_nextId hrunning rfl h
  cases heq
  cases hend with
  | again now created =>
      have hnext : ∀ stopTimeout image result u, RunsIn service (replace stopTimeout c.id image)
          (d.holding (before ++ d.started now c.stopped :: (after ++ left)) created) result u →
          (IsBlocked c.name result ↔
            c.name ∉ d.crashing ∧ (HoldsTemporary d c.name ∨ ¬ ClearsUp trace)) :=
        fun _ _ _ _ h => isBlocked_of_left_iff hl hleft h
      refine ⟨⟨fun hnothing => ?_, fun hclear => ?_⟩, hnext⟩
      · refine hnothing.clearsUp hleft fun m hm => ?_
        exact List.mem_append_right _ (List.mem_cons_of_mem _ (List.mem_append_right _ hm))
      · have hids := hleft.createdId_eq
        obtain rfl := hleft.eq_nil hclear
        rw [List.append_nil] at hnext ⊢
        have hfrom {o : MemoryContainer} := exists_same_of_mem (p := o) hl (c := c)
          (show (d.started now c.stopped).Same c from rfl)
        refine ⟨?_, ?_, ?_⟩
        · intro id hid o ho heq
          obtain ⟨p, hp, hid', -⟩ := hfrom ho
          exact hd.unused_nextId.id_ne hp (hid'.trans (heq.trans (hids id hid)))
        · intro o ho hname
          obtain ⟨p, hp, hid, hname'⟩ := hfrom ho
          exact ⟨p, hp, hid, hname'.trans hname⟩
        · intro hfree stopTimeout image result u h hblocked
          exact ((hnext stopTimeout image result u h).1 hblocked).2.elim hfree (absurd hclear)

/-- The replacement exits as soon as it is started, and is removed: the attempt can be made again. -/
theorem leavesNothing_exitingDaemon :
    let c := web [(Label.uptimeKey, "1s")]
    let d := exitingDaemon c
    let (trace, result, w) := conversationAround d "web" "app:2" []
    d.Sound ∧ d.find? "web" = some c ∧ c.running = true ∧ isRolledBack result = true ∧
      LeavesNothing d c trace w.daemon := by
  have hd : (exitingDaemon (web [(Label.uptimeKey, "1s")])).Sound :=
    exitingDaemon_sound rfl rfl (by decide) (by decide)
  have hback : isRolledBack
      (conversationAround (exitingDaemon (web [(Label.uptimeKey, "1s")])) "web" "app:2" []).2.1 =
        true := by decide +kernel
  exact ⟨hd, rfl, rfl, hback,
    (leavesNothing_iff hd rfl rfl (converses_around _ "web" "app:2" []) hback).1.2
      (by decide +kernel)⟩

/-- The replacement cannot be removed, which the result does not say. It keeps the temporary name, and
the next attempt, in which nothing fails, is given up because of that. -/
theorem exists_rolledBack_blocked :
    ∃ d t u c trace result next, d.Sound ∧ d.find? "web" = some c ∧ c.running = true ∧
      Converses conduct (replace .zero "web" "app:2") d trace result t ∧
      isRolledBack result = true ∧ ¬ HoldsTemporary d c.name ∧ HoldsTemporary t c.name ∧
      RunsIn service (replace .zero c.id "app:2") t next u ∧ IsBlocked c.name next ∧
      ¬ LeavesNothing d c trace t := by
  let c := web [(Label.uptimeKey, "1s")]
  let d := exitingDaemon c
  let busy : FaultRule := ⟨.exact "remove:new1", .unexpected "busy", 0, none⟩
  let t := (conversationAround d "web" "app:2" [busy]).2.2.daemon
  have hd : d.Sound :=
    exitingDaemon_sound (c := web [(Label.uptimeKey, "1s")]) rfl rfl (by decide) (by decide)
  have hfree : ¬ HoldsTemporary d c.name := by decide +kernel
  have hnext := (converses_served (replace .zero c.id "app:2") t).runsIn fun _ _ _ _ hq => hq
  have hblocked : IsBlocked c.name ((replace .zero c.id "app:2").served t).2.1 := by decide +kernel
  exact ⟨d, t, _, c, _, _, _, hd, rfl, rfl, converses_around d "web" "app:2" [busy],
    by decide +kernel, hfree, by decide +kernel, hnext, hblocked,
    fun hnothing => hnothing.repeatable hfree _ _ _ _ hnext hblocked⟩

end ContainerFleet.Replacement
