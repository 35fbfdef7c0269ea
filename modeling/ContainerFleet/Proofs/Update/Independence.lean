import ContainerFleet.Proofs.Update.Handling
import ContainerFleet.Proofs.Update.Recording
import ContainerFleet.Proofs.Update.Scene

/-!
A container that fails before anything is done to it does not matter to the others. Main statement:
`run_without`, that a run without it comes to the same.
-/

namespace ContainerFleet

open Program

/-- An exchange by which nothing in a world changes: something is only looked up, or a pull fails. -/
def Passive : UpdateExchange → Prop
  | ⟨.pull _, reply⟩ => ∃ e, reply = some (.error e)
  | ⟨q, _⟩ => UpdateRequest.isLookup q = true

theorem Lookups.passive {t : List UpdateExchange} (h : Lookups t) : ∀ x ∈ t, Passive x := by
  rintro ⟨q, r⟩ hx
  have hq := h _ hx
  cases q with
  | pull image => cases hq
  | _ => exact hq

namespace Surroundings

variable {σ α : Type} {k : Surroundings σ}

theorem perform_eq_of_error {call : DaemonCall} {s : Scene σ} {e : DaemonError}
    (h : (k.perform call s).1 = .error e) : (k.perform call s).2 = s := by
  unfold perform at h ⊢
  split
  · rfl
  · next hnone =>
      rw [hnone] at h
      have hdaemon := MemoryDaemon.perform_of_error (d := s.daemon) (Prod.ext h rfl)
      simp only [hdaemon]

theorem handle_eq_of_isLookup {q : UpdateRequest} (hq : q.isLookup = true) (s : Scene σ) :
    (k.handle q s).2 = s := by
  cases q with
  | daemon call =>
      change (k.perform call s).2 = s
      unfold perform
      split
      · rfl
      · cases call <;> try cases hq
        all_goals
          simp only [MemoryDaemon.perform]
          split <;> rfl
  | _ => cases hq

theorem handle_eq_of_passive {q : UpdateRequest} {s : Scene σ}
    (h : Passive ⟨q, (k.handle q s).1⟩) : (k.handle q s).2 = s := by
  cases q with
  | pull image =>
      obtain ⟨e, h⟩ := h
      have hfails : (k.perform (.pull image) s).1 = .error e := Option.some.inj h
      exact perform_eq_of_error hfails
  | _ => exact handle_eq_of_isLookup h s

/-- Update code of which all exchanges are passive leaves the scene as it found it. -/
theorem eq_of_passive {p : UpdateProgram α} {s : Scene σ}
    (h : ∀ x ∈ (k.converse p s).1, Passive x) : (k.converse p s).2.2 = s := by
  induction p generalizing s with
  | done a => rfl
  | ask q next ih =>
      obtain ⟨hfirst, hrest⟩ := List.forall_mem_cons.1 h
      exact (ih _ hrest).trans (handle_eq_of_passive hfirst)

end Surroundings

namespace UpdateRun

open DigestCheck

variable {updater : Updater} {host : RunHost} {policy : UpdatePolicy}

/-- A visit that failed before its container was to be replaced: its reference could not be found
out, its image not be compared with that of the registry, or the newer image not be pulled. -/
inductive FailedEarly (listed : ContainerRecord) : List UpdateExchange → Step → Prop where
  | unresolved {t : List UpdateExchange} {e : DaemonError} (h : Resolves listed t (.error e)) :
      FailedEarly listed t (.ofOutcome listed (unresolved e))
  | notCompared {t u : List UpdateExchange} {c : ContainerRecord} {e : DigestError}
      (h : Resolves listed t (.ok c)) (hlook : LooksUp c.image u (.error e)) :
      FailedEarly listed (t ++ u) (.ofOutcome c (.failed e.message))
  | notPulled {t u : List UpdateExchange} {c : ContainerRecord} {check : DigestCheck}
      (h : Resolves listed t (.ok c)) (hlook : LooksUp c.image u (.ok check)) (e : DaemonError) :
      FailedEarly listed (t ++ (u ++ [pulling c.image (some (.error e))]))
        (.ofOutcome c (notPulled c.image e))

/-- A visit in which nothing was done: its container was skipped or up to date, or it failed early. -/
def Idle (listed : ContainerRecord) (trace : List UpdateExchange) (done : Step) : Prop :=
  (∃ reason, done.report.outcome = .skipped reason) ∨ done.report.outcome = .upToDate ∨
    FailedEarly listed trace done

theorem passive_append {t u : List UpdateExchange} (ht : ∀ x ∈ t, Passive x)
    (hu : ∀ x ∈ u, Passive x) : ∀ x ∈ t ++ u, Passive x :=
  List.forall_mem_append.2 ⟨ht, hu⟩

/-- Whatever was considered and neither skipped nor found up to date was acted on. -/
theorem Handles.passive_or_acted {c : ContainerRecord} {trace : List UpdateExchange}
    {outcome : Outcome} (h : Handles updater host policy c trace outcome) :
    (∀ x ∈ trace, Passive x) ∧ outcome = .upToDate ∨ Acted outcome := by
  cases h with
  | upToDate h _ => exact .inl ⟨(lookups_of_looksUp h).passive, rfl⟩
  | recorded _ _ _ now saved => exact .inr (by cases saved <;> exact trivial)
  | pulled _ _ _ _ => exact .inr (acted_outcomeOf _)
  | superseded _ _ _ _ _ => exact .inr (acted_outcomeOf _)
  | _ => exact .inr trivial

theorem FailedEarly.passive {listed : ContainerRecord} {trace : List UpdateExchange} {done : Step}
    (h : FailedEarly listed trace done) : (∀ x ∈ trace, Passive x) ∧ done.deferred = none := by
  cases h with
  | unresolved h => exact ⟨h.lookups.passive, rfl⟩
  | notCompared h hlook => exact ⟨(h.lookups.append (lookups_of_looksUp hlook)).passive, rfl⟩
  | notPulled h hlook e =>
      refine ⟨passive_append h.lookups.passive
        (passive_append (lookups_of_looksUp hlook).passive ?_), rfl⟩
      intro x hx
      rw [List.mem_singleton.1 hx]
      exact ⟨e, rfl⟩

/-- Where nothing was done, nothing was changed, and nothing is left for the end. -/
theorem Idle.passive {listed : ContainerRecord} {trace : List UpdateExchange} {done : Step}
    (h : Idle listed trace done) (hrun : Runs (step updater host policy listed) trace done) :
    (∀ x ∈ trace, Passive x) ∧ done.deferred = none := by
  rcases h with ⟨reason, hskipped⟩ | hcurrent | hfailed
  · cases visited_of_runs hrun with
    | unresolved h => cases hskipped
    | skipped h _ => exact ⟨h.lookups.passive, rfl⟩
    | deferred h _ => cases hskipped
    | @processed t u c outcome h _ hprocess =>
        obtain rfl : outcome = .skipped reason := hskipped
        rcases (handles_of_runs hprocess).passive_or_acted with ⟨-, hcurrent⟩ | hacted
        · cases hcurrent
        · exact hacted.elim
  · cases visited_of_runs hrun with
    | unresolved h => cases hcurrent
    | skipped h _ => cases hcurrent
    | deferred h _ => cases hcurrent
    | @processed t u c outcome h _ hprocess =>
        obtain rfl : outcome = .upToDate := hcurrent
        rcases (handles_of_runs hprocess).passive_or_acted with ⟨hpassive, -⟩ | hacted
        · exact ⟨passive_append h.lookups.passive hpassive, rfl⟩
        · exact hacted.elim
  · exact hfailed.passive

section Scene

variable {σ : Type} {k : Surroundings σ}

/-- A walk in a world where nobody cancels it: the first container is visited, and then the others. -/
theorem run_walk_cons (c : ContainerRecord) (cs : List ContainerRecord)
    (deferred : Option ContainerRecord) (s : Scene σ) :
    k.run (walk updater host policy (c :: cs) deferred) s =
      let turn := k.run (step updater host policy c) s
      let rest := k.run (walk updater host policy cs (turn.1.deferred.or deferred)) turn.2
      ({ rest.1 with reports := turn.1.report :: rest.1.reports }, rest.2) := by
  simp only [walk, k.run_bind, k.run_isCancelled, k.run_pure, Bool.false_eq_true, if_false]

/-- A walk over two lists is a walk over the first and then one over the second. -/
theorem run_walk_append (before after : List ContainerRecord) (deferred : Option ContainerRecord)
    (s : Scene σ) :
    k.run (walk updater host policy (before ++ after) deferred) s =
      let first := k.run (walk updater host policy before deferred) s
      let rest := k.run (walk updater host policy after first.1.deferred) first.2
      ({ rest.1 with reports := first.1.reports ++ rest.1.reports }, rest.2) := by
  induction before generalizing deferred s with
  | nil => rfl
  | cons c cs ih =>
      rw [List.cons_append, run_walk_cons, run_walk_cons]
      simp only [ih, List.cons_append]

theorem length_reports_walk (containers : List ContainerRecord)
    (deferred : Option ContainerRecord) (s : Scene σ) :
    (k.run (walk updater host policy containers deferred) s).1.reports.length =
      containers.length := by
  induction containers generalizing deferred s with
  | nil => rfl
  | cons c cs ih =>
      rw [run_walk_cons]
      exact congrArg (· + 1) (ih _ _)

/-- What follows a walk copies its entries and does not look at them. -/
theorem run_finish_reports (walked : Walk) (reports : List ContainerReport) (cancelled : Bool)
    (s : Scene σ) :
    k.run (finish updater host policy { walked with reports := reports } cancelled) s =
      let ended := k.run (finish updater host policy walked cancelled) s
      ({ ended.1 with containers := reports }, ended.2) := by
  cases cancelled with
  | true => rfl
  | false =>
      obtain ⟨own, deferred, stopped⟩ := walked
      cases deferred with
      | none => simp only [finish, k.run_bind, k.run_pure, Bool.false_eq_true, if_false]
      | some me => simp only [finish, k.run_bind, k.run_pure, Bool.false_eq_true, if_false]

theorem run_run (containers : List ContainerRecord) (s : Scene σ) :
    k.run (run updater host policy containers) s =
      let walked := k.run (walk updater host policy containers none) s
      k.run (finish updater host policy walked.1 walked.1.cancelled) walked.2 := by
  simp only [run, k.run_bind, k.run_isCancelled, Bool.or_false]

/-- The visit to a container when its turn has come in a run: what is asked and answered, and what
comes of it. -/
def turn (updater : Updater) (host : RunHost) (policy : UpdatePolicy) (k : Surroundings σ)
    (before : List ContainerRecord) (x : ContainerRecord) (s : Scene σ) :
    List UpdateExchange × Step × Scene σ :=
  k.converse (step updater host policy x) (k.run (walk updater host policy before none) s).2

/-- A turn in which nothing is done leaves the scene to the next container as it was. -/
theorem run_step_of_idle {before : List ContainerRecord} {x : ContainerRecord} {s : Scene σ}
    (hidle : Idle x (turn updater host policy k before x s).1
      (turn updater host policy k before x s).2.1) :
    k.run (step updater host policy x) (k.run (walk updater host policy before none) s).2 =
        ((turn updater host policy k before x s).2.1,
          (k.run (walk updater host policy before none) s).2) ∧
      (turn updater host policy k before x s).2.1.deferred = none := by
  have hruns := (Surroundings.converses_daemon (k := k) (step updater host policy x)
    (k.run (walk updater host policy before none) s).2).runs
  obtain ⟨hpassive, hdeferred⟩ := hidle.passive hruns
  refine ⟨?_, hdeferred⟩
  rw [k.run_eq_converse]
  exact Prod.ext rfl (Surroundings.eq_of_passive hpassive)

/-- A run over some containers, and the run over them without one that was skipped, up to date, or
failed before it was to be replaced, in a world where the same call always fails or never. The
entries of the others, what is said of pruning and of the program's own container, the daemon, the
store and the clock are the same. -/
theorem run_without (before : List ContainerRecord) (x : ContainerRecord)
    (after : List ContainerRecord) (s : Scene σ)
    (hidle : Idle x (turn updater host policy k before x s).1
      (turn updater host policy k before x s).2.1) :
    let whole := k.run (run updater host policy (before ++ x :: after)) s
    let without := k.run (run updater host policy (before ++ after)) s
    ∃ first rest, first.length = before.length ∧
      whole.1.containers = first ++ (turn updater host policy k before x s).2.1.report :: rest ∧
      without = ({ whole.1 with containers := first ++ rest }, whole.2) := by
  obtain ⟨hstep, hdeferred⟩ := run_step_of_idle hidle
  simp only [run_run, run_walk_append, run_walk_cons, hstep, hdeferred, Option.none_or,
    run_finish_reports]
  exact ⟨_, _, length_reports_walk before none s, rfl, rfl⟩

end Scene

/-- A container of an image that no other one has. -/
def database : MemoryContainer :=
  { MemoryDaemon.web [] with id := "c3", name := "db", image := "db:1", imageId := "sha256:d" }

/-- It is listed between two siblings, and the registry has newer images for all three. -/
def databaseAmongSiblings : Scene MemoryStore where
  daemon :=
    { siblings with
      containers := siblings.containers.insertIdx 1 database
      images := ("db:1", ⟨"sha256:d", ["db@sha256:o"]⟩) :: siblings.images
      registry := ("db:1", "sha256:m") :: siblings.registry
      dangling := ⟨["sha256:x"], 5⟩ }
  store := .empty
  clock := (0 : Int)

/-- Its image cannot be pulled. -/
def refusesPull : DaemonCall → Option DaemonError
  | .pull "db:1" => some (.unexpected "no space left")
  | _ => none

/-- The siblings are replaced as they are without it. -/
theorem run_without_database :
    let k := Surroundings.plain refusesPull
    let listed := databaseAmongSiblings.daemon.list true
    let visit := turn ⟨"", none, .zero⟩ ⟨"here", .local⟩ .plain k (listed.take 1)
      (databaseAmongSiblings.daemon.record database) databaseAmongSiblings
    let whole := k.run (run ⟨"", none, .zero⟩ ⟨"here", .local⟩ .plain listed) databaseAmongSiblings
    let without := k.run (run ⟨"", none, .zero⟩ ⟨"here", .local⟩ .plain (listed.eraseIdx 1))
      databaseAmongSiblings
    Idle (databaseAmongSiblings.daemon.record database) visit.1 visit.2.1 ∧
      (∃ first rest, first.length = 1 ∧
        whole.1.containers = first ++ visit.2.1.report :: rest ∧
        without = ({ whole.1 with containers := first ++ rest }, whole.2)) ∧
      whole.1.containers.map ContainerReport.outcome =
        [.updated "new1", notPulled "db:1" (.unexpected "no space left"), .updated "new2"] := by
  have hfailed : FailedEarly (databaseAmongSiblings.daemon.record database)
      (turn ⟨"", none, .zero⟩ ⟨"here", .local⟩ .plain (Surroundings.plain refusesPull)
        ((databaseAmongSiblings.daemon.list true).take 1)
        (databaseAmongSiblings.daemon.record database) databaseAmongSiblings).1
      (turn ⟨"", none, .zero⟩ ⟨"here", .local⟩ .plain (Surroundings.plain refusesPull)
        ((databaseAmongSiblings.daemon.list true).take 1)
        (databaseAmongSiblings.daemon.record database) databaseAmongSiblings).2.1 :=
    .notPulled (.listed (by decide)) (.compared (by decide) ⟨"sha256:d", ["db@sha256:o"]⟩ "sha256:m")
      (.unexpected "no space left")
  exact ⟨.inr (.inr hfailed),
    run_without ((databaseAmongSiblings.daemon.list true).take 1)
      (databaseAmongSiblings.daemon.record database)
      ((databaseAmongSiblings.daemon.list true).drop 2) databaseAmongSiblings (.inr (.inr hfailed)),
    by decide +kernel⟩

end UpdateRun

end ContainerFleet
