import ContainerFleet.Proofs.Update.Parts
import ContainerFleet.Proofs.Update.Recording
import ContainerFleet.Update.World

/-!
What is remembered of images that are gone, over many update runs on one host, when calls to the daemon
and to the store may fail. Main statement: `Loops.get?_eq_none_iff`, that a record of a removed image
is gone exactly when some run that removed the image could drop its records.
-/

namespace ContainerFleet

open Program (Converses Leads Runs)

namespace MemoryStore

variable {s t : MemoryStore} {trace : List UpdateExchange}

/-- What may happen to a store whose calls can fail: one that fails leaves it as it is. -/
def faulty : Conduct updateInterface MemoryStore := fun (q : UpdateRequest) s (r : q.Reply) t =>
  match q, r with
  | .store call, r => s.handle call = (r, t) ∨ ((∃ e, r = .error e) ∧ t = s)
  | _, _ => t = s

/-- The store after a request that did not fail. -/
def followingOne (s : MemoryStore) : UpdateExchange → MemoryStore
  | ⟨.store (.save u), .ok _⟩ => s.save u
  | ⟨.store (.delete host ids), .ok _⟩ => s.delete host ids
  | _ => s

/-- The store after some exchanges, of which some may have failed. -/
def following (s : MemoryStore) (trace : List UpdateExchange) : MemoryStore :=
  trace.foldl followingOne s

theorem following_append (s : MemoryStore) (t u : List UpdateExchange) :
    s.following (t ++ u) = (s.following t).following u :=
  List.foldl_append

theorem following_cons (s : MemoryStore) (x : UpdateExchange) (t : List UpdateExchange) :
    s.following (x :: t) = (s.followingOne x).following t :=
  rfl

theorem following_of_leads (h : Leads faulty s trace t) : t = s.following trace := by
  induction h with
  | nil s => rfl
  | @cons x trace s t u hx h ih =>
      obtain ⟨q, r⟩ := x
      have hone : t = s.followingOne ⟨q, r⟩ := by
        cases q with
        | store call =>
            rcases hx with hok | ⟨⟨e, rfl⟩, rfl⟩
            · cases call <;> cases hok <;> rfl
            · cases call <;> rfl
        | _ => exact hx
      rw [following_cons, ← hone]
      exact ih

end MemoryStore

namespace UpdateWorld

variable {w : UpdateWorld MemoryStore}

theorem store_fault (call : String) : (w.fault call).2.store = w.store := by
  unfold fault
  split <;> rfl

/-- A call that fails by the rules of a world in memory leaves its store as it is. -/
theorem faulty_store (q : UpdateRequest) (w : UpdateWorld MemoryStore) :
    MemoryStore.faulty q w.store (handle ⟨MemoryStore.handle⟩ q w).1
      (handle ⟨MemoryStore.handle⟩ q w).2.store := by
  have hfault (call : String) : ((w.log call).fault call).2.store = w.store := store_fault call
  cases q with
  | daemon call =>
      have hstore := hfault call.toText
      change (w.callDaemon call).2.store = w.store
      unfold callDaemon
      split <;> next heq => rw [heq] at hstore; exact hstore
  | pull image =>
      have hstore := hfault (DaemonCall.pull image).toText
      change (w.pullImage image).2.store = w.store
      unfold pullImage
      split
      · next heq => rw [heq] at hstore; exact hstore
      · next heq =>
          rw [heq] at hstore
          split <;> exact hstore
  | store call =>
      change MemoryStore.faulty (.store call) w.store (w.callStore ⟨MemoryStore.handle⟩ call).1
        (w.callStore ⟨MemoryStore.handle⟩ call).2.store
      unfold callStore
      dsimp only
      split
      · exact .inr ⟨⟨_, rfl⟩, rfl⟩
      · exact .inl rfl
  | _ => rfl

end UpdateWorld

/-- Whether a request has the store drop records. -/
def UpdateRequest.drops : UpdateRequest → Bool
  | .store (.delete _ _) => true
  | _ => false

/-- Exchanges in which no records are dropped. -/
def Keeps (trace : List UpdateExchange) : Prop :=
  ∀ x ∈ trace, UpdateRequest.drops x.request = false

theorem OnVisit.keeps {name : String} {trace : List UpdateExchange} (h : OnVisit name trace) :
    Keeps trace := by
  rintro ⟨q, r⟩ hx
  have hvisit := h _ hx
  cases q with
  | store call => cases call <;> first | rfl | cases hvisit
  | _ => rfl

theorem Lookups.keeps {trace : List UpdateExchange} (h : Lookups trace) : Keeps trace :=
  OnVisit.keeps (h.onVisit : OnVisit "" trace)

theorem kept_cons (x : UpdateExchange) (t : List UpdateExchange) :
    kept (x :: t) = (kept? x).toList ++ kept t := by
  rw [kept, List.filterMap_cons]
  cases kept? x <;> rfl

/-- A record stays as it is while no records are dropped and none is put in its place. By induction on
the exchanges. -/
theorem MemoryStore.get?_following_of_keeps {trace : List UpdateExchange} {k : String × String}
    (hkeeps : Keeps trace) (hk : ∀ u ∈ kept trace, u.key ≠ k) (s : MemoryStore) :
    (s.following trace).records.get? k = s.records.get? k := by
  induction trace generalizing s with
  | nil => rfl
  | cons x trace ih =>
      obtain ⟨hx, hrest⟩ := List.forall_mem_cons.1 hkeeps
      rw [kept_cons, List.forall_mem_append] at hk
      rw [following_cons, ih hrest hk.2]
      obtain ⟨q, r⟩ := x
      cases q with
      | store call =>
          cases call with
          | save u =>
              cases r with
              | error e => rfl
              | ok _ => exact (get?_save s u k).trans (if_neg (hk.1 u (.head _)))
          | delete host ids => cases hx
          | find host ids => rfl
      | _ => rfl

/-- Whether an exchange is that images are pruned. -/
def isPrune : UpdateExchange → Bool
  | ⟨.daemon .prune, _⟩ => true
  | _ => false

theorem isPrune_of_onVisit {name : String} {x : UpdateExchange}
    (h : UpdateRequest.OnVisit name x.request) : isPrune x = false := by
  obtain ⟨q, r⟩ := x
  cases q with
  | daemon call => cases call <;> first | rfl | exact absurd rfl h
  | _ => rfl

/-- What comes before images are pruned. -/
def beforePrune (trace : List UpdateExchange) : List UpdateExchange :=
  trace.takeWhile fun x => !isPrune x

/-- What comes after images were pruned. -/
def afterPrune (trace : List UpdateExchange) : List UpdateExchange :=
  (trace.dropWhile fun x => !isPrune x).tail

/-- The images that a run removed and of which it could drop the records. -/
def UpdateReport.droppedIds (r : UpdateReport) : List String :=
  match r.prune with
  | some ⟨deleted, _, none⟩ => deleted
  | _ => []

namespace UpdateRun

variable {updater : Updater} {host : RunHost} {policy : UpdatePolicy}
  {containers : List ContainerRecord} {trace : List UpdateExchange} {report : UpdateReport}

theorem keeps_recording (name imageId updateRef : String) (now : Moment)
    (saved : Except StoreError Unit) : Keeps (recording name imageId updateRef now saved) := by
  simp [Keeps, recording, UpdateRequest.drops]

theorem DeferredSeen.keeps {e : Option ContainerReport} {state : SelfUpdate}
    (h : DeferredSeen updater host policy e trace state) : Keeps trace := by
  cases h with
  | none => exact List.forall_mem_nil _
  | checked h =>
      cases h with
      | notCompared h => exact (lookups_of_looksUp h).keeps
      | upToDate h _ => exact (lookups_of_looksUp h).keeps
      | recorded h _ _ now saved =>
          exact List.forall_mem_append.2 ⟨(lookups_of_looksUp h).keeps, keeps_recording _ _ _ now saved⟩
      | handedOver h _ _ _ now reply =>
          exact List.forall_mem_append.2
            ⟨(lookups_of_looksUp h).keeps, by simp [requesting, UpdateRequest.drops]⟩

/-- A run drops no records, or it does so when it prunes images, and nowhere else. -/
inductive Dropping (host : RunHost) (trace : List UpdateExchange) (report : UpdateReport) :
    Prop where
  | notPruned (hprune : report.prune = none) (hkeeps : Keeps trace)
  | pruned {front pruned back : List UpdateExchange} {summary : PruneSummary}
      (hprune : report.prune = some summary) (htrace : trace = front ++ (pruned ++ back))
      (h : Prunes host pruned summary) (hfront : Keeps front) (hback : Keeps back)
      (hfirst : ∀ x ∈ front, isPrune x = false)

theorem dropping_of_runs (hrun : Runs (run updater host policy containers) trace report) :
    Dropping host trace report := by
  obtain ⟨visits, closing, h⟩ := exists_runParts hrun
  have hvisits : ∀ x ∈ visits.flatMap Visit.exchanges,
      UpdateRequest.drops x.request = false ∧ isPrune x = false := by
    intro x hx
    obtain ⟨v, hv, hx⟩ := List.mem_flatMap.1 hx
    rcases List.mem_cons.1 hx with rfl | hx
    · exact ⟨rfl, rfl⟩
    · exact ⟨(h.onVisit hv).keeps x hx, isPrune_of_onVisit (h.onVisit hv x hx)⟩
  have hkeeps : Keeps (visits.flatMap Visit.exchanges) := fun x hx => (hvisits x hx).1
  have hasked (again : Bool) : Keeps [asked again] := List.forall_mem_singleton.2 rfl
  rw [h.trace_eq]
  cases h.closes with
  | stopped again =>
      exact .notPruned rfl (List.forall_mem_append.2
        ⟨hkeeps, List.forall_mem_cons.2 ⟨rfl, hasked again⟩⟩)
  | stoppedLast => exact .notPruned rfl (List.forall_mem_append.2 ⟨hkeeps, hasked true⟩)
  | @finished pruned last summary state hprune hself =>
      have hparts : visits.flatMap Visit.exchanges ++ asked false :: (pruned ++ last) =
          (visits.flatMap Visit.exchanges ++ [asked false]) ++ (pruned ++ last) := by
        rw [List.append_assoc, List.singleton_append]
      refine .pruned rfl hparts hprune (List.forall_mem_append.2 ⟨hkeeps, hasked false⟩)
        hself.keeps ?_
      exact List.forall_mem_append.2 ⟨fun x hx => (hvisits x hx).2, List.forall_mem_singleton.2 rfl⟩

theorem Prunes.following_eq {pruned : List UpdateExchange} {summary : PruneSummary}
    (h : Prunes host pruned summary) (hprune : report.prune = some summary) (s : MemoryStore) :
    s.following pruned = s.delete host.name report.droppedIds := by
  rw [UpdateReport.droppedIds, hprune]
  cases h with
  | failed e => rfl
  | nothing spaceReclaimed => rfl
  | removed h reply => cases reply <;> rfl

theorem Prunes.exists_cons {pruned : List UpdateExchange} {summary : PruneSummary}
    (h : Prunes host pruned summary) :
    ∃ x more, pruned = x :: more ∧ isPrune x = true ∧ kept pruned = [] ∧ kept more = [] := by
  cases h with
  | failed e => exact ⟨_, _, rfl, rfl, rfl, rfl⟩
  | nothing spaceReclaimed => exact ⟨_, _, rfl, rfl, rfl, rfl⟩
  | removed h reply => exact ⟨_, _, rfl, rfl, rfl, rfl⟩

/-- A run leaves of a record nothing when it drops it, and otherwise what was there, unless it puts
one in its place. -/
theorem get?_following_run {id : String}
    (hrun : Runs (run updater host policy containers) trace report)
    (hkept : ∀ u ∈ kept trace, u.key ≠ (host.name, id)) (s : MemoryStore) :
    (s.following trace).records.get? (host.name, id) =
      if id ∈ report.droppedIds then none else s.records.get? (host.name, id) := by
  cases dropping_of_runs hrun with
  | notPruned hprune hkeeps =>
      rw [MemoryStore.get?_following_of_keeps hkeeps hkept, UpdateReport.droppedIds, hprune]
      simp
  | @pruned front pruned back summary hprune htrace h hfront hback hfirst =>
      subst htrace
      rw [kept_append, kept_append, List.forall_mem_append, List.forall_mem_append] at hkept
      rw [MemoryStore.following_append, MemoryStore.following_append,
        MemoryStore.get?_following_of_keeps hback hkept.2.2, h.following_eq hprune]
      split
      · next hmem => exact MemoryStore.get?_delete_of_mem hmem
      · next hmem =>
          rw [MemoryStore.get?_delete_of_ne fun _ => hmem,
            MemoryStore.get?_following_of_keeps hfront hkept.1]

/-- The same with the store as it is when images are pruned, for a record that may have been put in
before that. -/
theorem get?_following_of_pruned {id : String}
    (hrun : Runs (run updater host policy containers) trace report)
    (hpruned : id ∈ report.prunedIds)
    (hkept : ∀ u ∈ kept (afterPrune trace), u.key ≠ (host.name, id)) (s : MemoryStore) :
    (s.following trace).records.get? (host.name, id) =
      if id ∈ report.droppedIds then none
      else (s.following (beforePrune trace)).records.get? (host.name, id) := by
  cases dropping_of_runs hrun with
  | notPruned hprune hkeeps =>
      rw [UpdateReport.prunedIds, hprune] at hpruned
      cases hpruned
  | @pruned front pruned back summary hprune htrace h hfront hback hfirst =>
      subst htrace
      obtain ⟨x, more, rfl, hx, -, hmore⟩ := h.exists_cons
      have hnot : ∀ x ∈ front, (!isPrune x) = true := fun x hx => by simp [hfirst x hx]
      have hbefore : beforePrune (front ++ (x :: more ++ back)) = front := by
        rw [beforePrune, List.takeWhile_append_of_pos hnot, List.cons_append,
          List.takeWhile_cons_of_neg (by simp [hx]), List.append_nil]
      have hafter : afterPrune (front ++ (x :: more ++ back)) = more ++ back := by
        rw [afterPrune, List.dropWhile_append_of_pos hnot, List.cons_append,
          List.dropWhile_cons_of_neg (by simp [hx]), List.tail_cons]
      rw [hafter, kept_append, hmore, List.nil_append] at hkept
      rw [hbefore, MemoryStore.following_append, MemoryStore.following_append,
        MemoryStore.get?_following_of_keeps hback hkept, h.following_eq hprune]
      split
      · next hmem => exact MemoryStore.get?_delete_of_mem hmem
      · next hmem => exact MemoryStore.get?_delete_of_ne fun _ => hmem

/-- One of several update runs on a host. -/
structure Loop where
  updater : Updater
  policy : UpdatePolicy
  containers : List ContainerRecord
  trace : List UpdateExchange
  report : UpdateReport

/-- `Loops host s loops t`: these update runs followed each other on a host, with a store that was the
one at first and the other one in the end. Any of their calls may have failed. -/
inductive Loops (host : RunHost) : MemoryStore → List Loop → MemoryStore → Prop where
  | nil (s : MemoryStore) : Loops host s [] s
  | cons {s t u : MemoryStore} {loop : Loop} {loops : List Loop}
      (h : Converses MemoryStore.faulty (run loop.updater host loop.policy loop.containers) s
        loop.trace loop.report t)
      (hrest : Loops host t loops u) : Loops host s (loop :: loops) u

section Loops

variable {s t : MemoryStore} {loop : Loop} {earlier later loops : List Loop} {id : String}

theorem Loops.exists_of_append (h : Loops host s (earlier ++ later) t) :
    ∃ u, Loops host s earlier u ∧ Loops host u later t := by
  induction earlier generalizing s with
  | nil => exact ⟨s, .nil s, h⟩
  | cons loop earlier ih =>
      cases h with
      | cons hloop h =>
          obtain ⟨u, hfirst, hlast⟩ := ih h
          exact ⟨u, .cons hloop hfirst, hlast⟩

theorem Loops.eq_following (h : Loops host s loops t) :
    t = s.following (loops.flatMap Loop.trace) := by
  induction h with
  | nil s => rfl
  | cons hloop _ ih =>
      rw [List.flatMap_cons, MemoryStore.following_append,
        ← MemoryStore.following_of_leads hloop.leads]
      exact ih

/-- Runs that put in no record of an image leave the one that was there, unless one of them drops
it. -/
theorem Loops.get?_eq (h : Loops host s loops t)
    (hkept : ∀ loop ∈ loops, ∀ u ∈ kept loop.trace, u.key ≠ (host.name, id)) :
    t.records.get? (host.name, id) =
      if ∃ loop ∈ loops, id ∈ loop.report.droppedIds then none
      else s.records.get? (host.name, id) := by
  induction h with
  | nil s => simp
  | @cons s t u loop loops hloop _ ih =>
      rw [List.forall_mem_cons] at hkept
      rw [ih hkept.2, MemoryStore.following_of_leads hloop.leads,
        get?_following_run hloop.runs hkept.1]
      by_cases hlater : ∃ loop ∈ loops, id ∈ loop.report.droppedIds
      · rw [if_pos hlater, if_pos (hlater.imp fun _ => .imp_left (List.mem_cons_of_mem _))]
      · simp only [if_neg hlater, List.mem_cons, exists_eq_or_imp, or_iff_left hlater]

/-- A record of an image was put in after a run had removed the image, in that run or a later one. -/
def RecordedSince (key : String × String) (loop : Loop) (later : List Loop) : Prop :=
  ∃ u ∈ kept (afterPrune loop.trace) ++ later.flatMap fun loop => kept loop.trace, u.key = key

/-- After any update runs on a host there is no record of an image that one of them removed and that
was not recorded since, exactly if there was none when it was removed, or that run or a later one that
removed the image could drop its records. -/
theorem Loops.get?_eq_none_iff (h : Loops host s (earlier ++ loop :: later) t)
    (hpruned : id ∈ loop.report.prunedIds)
    (hsince : ¬ RecordedSince (host.name, id) loop later) :
    t.records.get? (host.name, id) = none ↔
      (s.following (earlier.flatMap Loop.trace ++ beforePrune loop.trace)).records.get?
          (host.name, id) = none ∨
        ∃ l ∈ loop :: later, id ∈ l.report.droppedIds := by
  obtain ⟨u, hearlier, hloops⟩ := h.exists_of_append
  obtain rfl := hearlier.eq_following
  have hkept : ∀ u ∈ kept (afterPrune loop.trace), u.key ≠ (host.name, id) := fun u hu hkey =>
    hsince ⟨u, List.mem_append_left _ hu, hkey⟩
  have hlater : ∀ l ∈ later, ∀ u ∈ kept l.trace, u.key ≠ (host.name, id) := fun l hl u hu hkey =>
    hsince ⟨u, List.mem_append_right _ (List.mem_flatMap.2 ⟨l, hl, hu⟩), hkey⟩
  cases hloops with
  | cons hloop hrest =>
      rw [hrest.get?_eq hlater, MemoryStore.following_of_leads hloop.leads,
        get?_following_of_pruned hloop.runs hpruned hkept, MemoryStore.following_append]
      by_cases hdropped : ∃ l ∈ later, id ∈ l.report.droppedIds
      · simp [hdropped]
      · by_cases hmem : id ∈ loop.report.droppedIds <;> simp [hdropped, hmem]

end Loops

/-- An update run on the local host over no containers. -/
def loopIn (w : UpdateWorld MemoryStore) : Loop × UpdateWorld MemoryStore :=
  let (trace, report, ended) := Program.converse (I := updateInterface)
    (UpdateWorld.handle ⟨MemoryStore.handle⟩)
    (run ⟨"", none, .zero⟩ ⟨"local", .local⟩ UpdatePolicy.plain []) w
  (⟨⟨"", none, .zero⟩, UpdatePolicy.plain, [], trace, report⟩, ended)

theorem loops_loopIn {w : UpdateWorld MemoryStore} {loops : List Loop} {t : MemoryStore}
    (h : Loops ⟨"local", .local⟩ (loopIn w).2.store loops t) :
    Loops ⟨"local", .local⟩ w.store ((loopIn w).1 :: loops) t :=
  .cons (Program.converses_view (I := updateInterface) (UpdateWorld.handle ⟨MemoryStore.handle⟩)
    UpdateWorld.store UpdateWorld.faulty_store _ w) h

/-- An image to prune of which there is a record, and a store that drops nothing. -/
def fullDisk : UpdateWorld MemoryStore where
  daemon := { MemoryDaemon.empty with dangling := ⟨["sha256:x"], 5⟩ }
  reachable := true
  faults := []
  cancelOn := []
  cancelled := false
  store := MemoryStore.empty.save ⟨"local", "sha256:x", "sha256:y", .ofSinceEpoch 0⟩
  storeFaults := { StoreFaults.none with delete := some "disk full" }
  network := fun _ => ⟨.ok 404, .zero⟩
  clock := (0 : Int)
  calls := []

/-- The same, where the store drops what it is told to. -/
def freeDisk : UpdateWorld MemoryStore :=
  { fullDisk with storeFaults := .none }

/-- The record is dropped with the image. -/
theorem get?_eq_none_freeDisk :
    (Loops ⟨"local", .local⟩ freeDisk.store ([] ++ [(loopIn freeDisk).1]) (loopIn freeDisk).2.store ∧
      "sha256:x" ∈ (loopIn freeDisk).1.report.prunedIds ∧
      ¬ RecordedSince ("local", "sha256:x") (loopIn freeDisk).1 []) ∧
      (loopIn freeDisk).2.store.records.get? ("local", "sha256:x") = none := by
  have h : Loops ⟨"local", .local⟩ freeDisk.store ([] ++ [(loopIn freeDisk).1])
      (loopIn freeDisk).2.store := loops_loopIn (.nil _)
  have hpruned : "sha256:x" ∈ (loopIn freeDisk).1.report.prunedIds := by decide +kernel
  have hsince : ¬ RecordedSince ("local", "sha256:x") (loopIn freeDisk).1 [] := by
    unfold RecordedSince
    decide +kernel
  refine ⟨⟨h, hpruned, hsince⟩, (Loops.get?_eq_none_iff h hpruned hsince).2 (.inr ?_)⟩
  exact ⟨_, List.mem_cons_self, by decide +kernel⟩

/-- A run on the full disk. -/
def onFullDisk : Loop × UpdateWorld MemoryStore :=
  loopIn fullDisk

/-- The run after that, when the disk is free again. -/
def onFreedDisk : Loop × UpdateWorld MemoryStore :=
  loopIn { onFullDisk.2 with storeFaults := .none }

/-- The record outlives the image, although the second run prunes without an error. -/
theorem record_outlives_image :
    Loops ⟨"local", .local⟩ fullDisk.store [onFullDisk.1, onFreedDisk.1] onFreedDisk.2.store ∧
      onFreedDisk.1.report.prune = some ⟨[], 0, none⟩ ∧
      "sha256:x" ∈ onFullDisk.1.report.prunedIds ∧
      ¬ RecordedSince ("local", "sha256:x") onFullDisk.1 [onFreedDisk.1] ∧
      (onFreedDisk.2.store.records.get? ("local", "sha256:x")).isSome = true := by
  refine ⟨loops_loopIn (loops_loopIn (w := { onFullDisk.2 with storeFaults := .none }) (.nil _)),
    by decide +kernel, by decide +kernel, ?_, by decide +kernel⟩
  unfold RecordedSince
  decide +kernel

end UpdateRun

end ContainerFleet
