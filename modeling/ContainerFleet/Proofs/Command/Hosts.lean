import ContainerFleet.Command.Run
import ContainerFleet.Proofs.Program.Together
import ContainerFleet.Proofs.Update.Handling

/-!
How the program updates one host. Main statements: `runs_onHost_iff`, what the program asks on behalf
of a host, `exists_runs_of_sideBySide`, which finds this among what it asks on behalf of several, and
`starts_of_runs`, that the update of a host finds out about containers and then, if it can, makes one
update run over some of them.
-/

namespace ContainerFleet

open Program Command

namespace CommandProgram

/-- An exchange that the program has on behalf of a host. -/
def sent (client : Handle) (x : UpdateExchange) : Exchange commandInterface :=
  ⟨CommandRequest.onHost client x.request, x.reply⟩

theorem runs_onHost_iff {α : Type} {client : Handle} {p : UpdateProgram α}
    {trace : List (Exchange commandInterface)} {a : α} :
    Runs (onHost client p) trace a ↔ ∃ t, Runs p t a ∧ trace = t.map (sent client) := by
  induction p generalizing trace with
  | done b =>
      constructor
      · intro h
        obtain ⟨rfl, rfl⟩ := runs_pure_iff.1 h
        exact ⟨[], .done a, rfl⟩
      · rintro ⟨t, h, rfl⟩
        cases h
        exact .done a
  | ask q next ih =>
      constructor
      · intro h
        cases h with
        | ask r h =>
            obtain ⟨t, hrun, rfl⟩ := (ih r).1 h
            exact ⟨⟨q, r⟩ :: t, .ask (I := updateInterface) (q := q) r hrun, rfl⟩
      · rintro ⟨t, h, rfl⟩
        cases h with
        | ask r h =>
            exact .ask (I := commandInterface) (q := .onHost client q) r ((ih r).2 ⟨_, h, rfl⟩)

theorem sent_injective (client : Handle) (x y : UpdateExchange)
    (h : sent client x = sent client y) : x = y := by
  cases x
  cases y
  cases h
  rfl

section SideBySide

variable {α β : Type} {xs : List β} {client : β → Handle} {program : β → UpdateProgram α}
  {tagged : List (Nat × Exchange commandInterface)} {results : List α}

/-- Of programs side by side, each on behalf of a host, every one has a run of its own with the host,
out of the exchanges of all. -/
theorem exists_runs_of_sideBySide
    (hside : SideBySide (xs.map fun x => onHost (client x) (program x)) tagged results) {i : Nat}
    {x : β} (hx : xs[i]? = some x) :
    ∃ t a, results[i]? = some a ∧ Runs (program x) t a ∧
      own i tagged = t.map (sent (client x)) := by
  obtain ⟨a, ha, hown⟩ := hside.runs i (onHost (client x) (program x)) (by simp [hx])
  obtain ⟨t, hrun, htrace⟩ := runs_onHost_iff.1 hown
  exact ⟨t, a, ha, hrun, htrace⟩

theorem exists_runs_of_mem
    (hside : SideBySide (xs.map fun x => onHost (client x) (program x)) tagged results)
    {z : Nat × Exchange commandInterface} (hz : z ∈ tagged) :
    ∃ x t a, xs[z.1]? = some x ∧ Runs (program x) t a ∧
      own z.1 tagged = t.map (sent (client x)) := by
  have hlength := hside.known z hz
  rw [List.length_map] at hlength
  have hx := List.getElem?_eq_getElem hlength
  obtain ⟨t, a, -, hrun, hown⟩ := exists_runs_of_sideBySide hside hx
  exact ⟨xs[z.1], t, a, hx, hrun, hown⟩

end SideBySide

end CommandProgram

/-- Exchanges in which a daemon is asked for nothing but what it knows. -/
def Looking (trace : List UpdateExchange) : Prop :=
  ∀ x ∈ trace, ∃ call, x.request = .daemon call ∧ call.changesContainers = false

section Looking

variable {t u : List UpdateExchange}

theorem looking_nil : Looking [] :=
  List.forall_mem_nil _

theorem Looking.append (ht : Looking t) (hu : Looking u) : Looking (t ++ u) :=
  List.forall_mem_append.2 ⟨ht, hu⟩

theorem looking_list (all : Bool) (reply : (DaemonCall.list all).Reply) :
    Looking [said (.list all) reply] :=
  List.forall_mem_singleton.2 ⟨.list all, rfl, rfl⟩

theorem Lookups.looking (h : Lookups t) : Looking t :=
  fun x hx => UpdateRequest.of_isLookup (h x hx)

end Looking

/-- The update of a host: something about its containers is found out, and that ends in an error, or
there is one update run, under a policy that has newer images only recorded when the given one does
or when the update is not for the program's own container. -/
inductive Starts (s : HostService) (args : UpdateArguments) (policy : UpdatePolicy) :
    List UpdateExchange → Except UpdateError UpdateReport → Prop where
  | refused {t : List UpdateExchange} {e : UpdateError} (h : Looking t) :
      Starts s args policy t (.error e)
  | ran {t u : List UpdateExchange} {chosen : UpdatePolicy} {containers : List ContainerRecord}
      {report : UpdateReport} (h : Looking t)
      (hpolicy : args.selfContainer = none → chosen.notifyOnly = policy.notifyOnly)
      (hrun : Runs (UpdateRun.run s.updater s.host chosen containers) u report) :
      Starts s args policy (t ++ u) (.ok report)

namespace HostService

variable {s : HostService} {args : UpdateArguments} {policy chosen : UpdatePolicy}
  {t trace : List UpdateExchange} {result : Except UpdateError UpdateReport}

theorem starts_of_runs_run {containers : List ContainerRecord}
    (h : Runs (s.run chosen containers) trace result) (ht : Looking t)
    (hpolicy : args.selfContainer = none → chosen.notifyOnly = policy.notifyOnly) :
    Starts s args policy (t ++ trace) result := by
  obtain ⟨u, v, report, rfl, hrun, h⟩ := runs_bind_iff.1 h
  obtain ⟨rfl, rfl⟩ := runs_pure_iff.1 h
  rw [List.append_nil]
  exact .ran ht hpolicy hrun

theorem starts_of_updateAll (h : Runs (s.updateAll policy) trace result) :
    Starts s args policy trace result := by
  obtain ⟨u, v, listed, rfl, hlist, h⟩ := runs_bind_iff.1 h
  rw [UpdateProgram.runs_daemon_iff.1 hlist]
  cases listed with
  | error e =>
      obtain ⟨rfl, rfl⟩ := runs_pure_iff.1 h
      exact .refused (looking_list true _)
  | ok containers => exact starts_of_runs_run h (looking_list true _) fun _ => rfl

theorem starts_of_updateById {selectors : List String}
    (h : Runs (s.updateById selectors policy) trace result) : Starts s args policy trace result := by
  obtain ⟨u, v, listed, rfl, hlist, h⟩ := runs_bind_iff.1 h
  rw [UpdateProgram.runs_daemon_iff.1 hlist]
  cases listed with
  | error e =>
      obtain ⟨rfl, rfl⟩ := runs_pure_iff.1 h
      exact .refused (looking_list true _)
  | ok containers =>
      dsimp only at h
      split at h
      · exact starts_of_runs_run h (looking_list true _) fun _ => rfl
      · obtain ⟨rfl, rfl⟩ := runs_pure_iff.1 h
        exact .refused (looking_list true _)

theorem looking_of_withReference {reference : String} {containers : List ContainerRecord}
    {found : Except DaemonError (List ContainerRecord)}
    (h : Runs (withReference reference containers) trace found) : Looking trace := by
  induction containers generalizing trace found with
  | nil =>
      rw [(runs_pure_iff.1 h).1]
      exact looking_nil
  | cons c cs ih =>
      obtain ⟨u, v, resolved, rfl, hresolve, h⟩ := runs_bind_iff.1 h
      have hfirst := (UpdateRun.resolves_of_runs hresolve).lookups.looking
      cases resolved with
      | error e =>
          rw [(runs_pure_iff.1 h).1]
          exact hfirst.append looking_nil
      | ok c =>
          obtain ⟨w, x, rest, rfl, hrest, h⟩ := runs_bind_iff.1 h
          have hend : x = [] := by
            cases rest <;> exact (runs_pure_iff.1 h).1
          rw [hend, List.append_nil]
          exact hfirst.append (ih hrest)

theorem starts_of_updateByImage {reference : String}
    (h : Runs (s.updateByImage reference policy) trace result) : Starts s args policy trace result := by
  obtain ⟨u, v, listed, rfl, hlist, h⟩ := runs_bind_iff.1 h
  rw [UpdateProgram.runs_daemon_iff.1 hlist]
  cases listed with
  | error e =>
      obtain ⟨rfl, rfl⟩ := runs_pure_iff.1 h
      exact .refused (looking_list true _)
  | ok listed =>
      obtain ⟨w, x, found, rfl, hfound, h⟩ := runs_bind_iff.1 h
      have hlooking := (looking_list true (.ok listed)).append (looking_of_withReference hfound)
      rw [← List.append_assoc]
      split at h
      · obtain ⟨rfl, rfl⟩ := runs_pure_iff.1 h
        rw [List.append_nil]
        exact .refused hlooking
      · obtain ⟨rfl, rfl⟩ := runs_pure_iff.1 h
        rw [List.append_nil]
        exact .refused hlooking
      · exact starts_of_runs_run h hlooking fun _ => rfl

theorem starts_of_updateSelf {id : String} (hself : args.selfContainer = some id)
    (h : Runs (s.updateSelf id) trace result) : Starts s args policy trace result := by
  obtain ⟨u, v, listed, rfl, hlist, h⟩ := runs_bind_iff.1 h
  rw [UpdateProgram.runs_daemon_iff.1 hlist]
  cases listed with
  | error e =>
      obtain ⟨rfl, rfl⟩ := runs_pure_iff.1 h
      exact .refused (looking_list true _)
  | ok listed =>
      dsimp only at h
      split at h
      · obtain ⟨rfl, rfl⟩ := runs_pure_iff.1 h
        exact .refused (looking_list true _)
      · refine starts_of_runs_run h (looking_list true _) fun hnone => ?_
        cases hself.symm.trans hnone

end HostService

theorem Command.starts_of_runs {s : HostService} {args : UpdateArguments} {policy : UpdatePolicy}
    {trace : List UpdateExchange} {result : Except UpdateError UpdateReport}
    (h : Runs (Command.updateHost s args policy) trace result) : Starts s args policy trace result := by
  unfold Command.updateHost at h
  split at h
  · next id hself => exact HostService.starts_of_updateSelf hself h
  · exact HostService.starts_of_updateByImage h
  · split at h
    · exact HostService.starts_of_updateAll h
    · exact HostService.starts_of_updateById h

end ContainerFleet
