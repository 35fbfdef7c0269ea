import ContainerFleet.Proofs.Command.Handover
import ContainerFleet.Proofs.Host.Registered
import ContainerFleet.Proofs.Host.Scripted

/-!
When an update of the fleet succeeds. Main statements: `updateBreaking_eq_update`, that this is the
update of the program where no host breaks down, `exists_concludes`, what is printed about the hosts
and how the command ends, whatever became of each of them, and `update_ok_iff`, that it succeeds
exactly when all updates did, but for those of the program's own container.
-/

namespace ContainerFleet

open Program Command CommandProgram

namespace Program

variable {I : Interface} {α : Type} {p : Program I α} {trace : List (Exchange I)} {a : α}

/-- A program that did not break down made a run of its own. -/
theorem runs_of_breaking {limit : Option Nat} (h : Runs (p.breaking limit) trace (some a)) :
    Runs p trace a := by
  induction p generalizing limit trace with
  | done b =>
      cases limit with
      | none =>
          cases h
          exact .done a
      | some n =>
          cases n with
          | zero => cases h
          | succ n =>
              cases h
              exact .done a
  | ask q next ih =>
      cases limit with
      | none =>
          cases h with
          | ask r h => exact .ask r (ih r h)
      | some n =>
          cases n with
          | zero => cases h
          | succ n =>
              cases h with
              | ask r h => exact .ask r (ih r h)

theorem breaking_none (p : Program I α) : p.breaking none = bind p fun a => .done (some a) := by
  induction p with
  | done a => rfl
  | ask q next ih => simp only [breaking, bind, ih]

end Program

/-- Whether the update of the program's own container failed. -/
def SelfUpdate.isFailure : SelfUpdate → Bool
  | .failed _ => true
  | _ => false

/-- What came of the update of a host: nothing where it broke down. -/
abbrev HostOutcome : Type :=
  Option (Except UpdateError UpdateReport)

namespace HostOutcome

/-- How much failed on a host: what its report counts, or the host itself when it has none. -/
def failures : HostOutcome → Nat
  | some (.ok report) => report.failed
  | _ => 1

/-- How much failed on some hosts. -/
def failuresOf : List HostOutcome → Nat
  | [] => 0
  | o :: outcomes => o.failures + failuresOf outcomes

def report? (o : HostOutcome) : Option UpdateReport :=
  o.bind Except.toOption

/-- The host has a report, and by it no container failed or was rolled back. -/
def ContainersSucceeded (o : HostOutcome) : Prop :=
  ∃ report, o = some (.ok report) ∧ ∀ c ∈ report.containers, c.outcome.isFailure = false

/-- Besides, the update of the program's own container did not fail. -/
def Succeeded (o : HostOutcome) : Prop :=
  ∃ report, o = some (.ok report) ∧ (∀ c ∈ report.containers, c.outcome.isFailure = false) ∧
    report.selfUpdate.isFailure = false

theorem Succeeded.containersSucceeded {o : HostOutcome} (h : o.Succeeded) :
    o.ContainersSucceeded := by
  obtain ⟨report, rfl, hcontainers, -⟩ := h
  exact ⟨report, rfl, hcontainers⟩

theorem ContainersSucceeded.succeeded {o : HostOutcome} (h : o.ContainersSucceeded)
    (hself : ∀ report, o = some (.ok report) → report.selfUpdate.isFailure = false) :
    o.Succeeded := by
  obtain ⟨report, rfl, hcontainers⟩ := h
  exact ⟨report, rfl, hcontainers, hself report rfl⟩

theorem failures_eq_zero_iff {o : HostOutcome} : o.failures = 0 ↔ o.ContainersSucceeded := by
  match o with
  | none => simp [failures, ContainersSucceeded]
  | some (.error e) => simp [failures, ContainersSucceeded]
  | some (.ok report) =>
      simp [failures, ContainersSucceeded, UpdateReport.failed, List.countP_eq_zero]

theorem failuresOf_eq_zero_iff {outcomes : List HostOutcome} :
    failuresOf outcomes = 0 ↔ ∀ o ∈ outcomes, o.ContainersSucceeded := by
  induction outcomes with
  | nil => simp [failuresOf]
  | cons o outcomes ih =>
      rw [failuresOf, Nat.add_eq_zero_iff, failures_eq_zero_iff, ih, List.forall_mem_cons]

/-- The hosts that did not break down, and those that did, are counted apart. -/
theorem failuresOf_filterMap_add_countP (outcomes : List HostOutcome) :
    failuresOf ((outcomes.filterMap id).map some) + outcomes.countP Option.isNone =
      failuresOf outcomes := by
  induction outcomes with
  | nil => rfl
  | cons o outcomes ih =>
      cases o with
      | none =>
          rw [List.countP_cons_of_pos rfl, failuresOf, ← ih]
          simp only [List.filterMap_cons, id, failures]
          omega
      | some r =>
          rw [List.countP_cons_of_neg Bool.false_ne_true, failuresOf, ← ih]
          simp only [List.filterMap_cons, id, List.map_cons, failuresOf]
          omega

end HostOutcome

namespace Command

variable {turns : List Nat} {breakdown : String → Option Nat} {fleet : Fleet}
  {args : UpdateArguments} {policy : UpdatePolicy} {services : List (Host × HostService)}
  {trace : List (Exchange commandInterface)} {result : Except CommandError Unit}

theorem showOutcomes_map_some (results : List (Except UpdateError UpdateReport)) :
    showOutcomes (results.map some) = showReports results := by
  have hreports : (results.map some).filterMap id = results := by
    simp
  have hbroken : (results.map some).countP Option.isNone = 0 := by
    simp
  rw [showOutcomes, hreports, hbroken]
  exact bind_done _

/-- The report of a host is printed. -/
def shown (report : UpdateReport) : Exchange commandInterface :=
  ⟨CommandRequest.print report.toText, ()⟩

theorem of_runs_showReports {results : List (Except UpdateError UpdateReport)} {n : Nat}
    (h : Runs (showReports results) trace n) :
    trace = (results.filterMap Except.toOption).map shown ∧
      n = HostOutcome.failuresOf (results.map some) := by
  induction results generalizing trace n with
  | nil => exact runs_pure_iff.1 h
  | cons r results ih =>
      cases r with
      | error e =>
          obtain ⟨t, u, m, rfl, hrest, h⟩ := runs_bind_iff.1 h
          obtain ⟨rfl, rfl⟩ := runs_pure_iff.1 h
          obtain ⟨rfl, rfl⟩ := ih hrest
          exact ⟨List.append_nil _, rfl⟩
      | ok report =>
          obtain ⟨t, u, _, rfl, hprint, h⟩ := runs_bind_iff.1 h
          obtain ⟨v, w, m, rfl, hrest, h⟩ := runs_bind_iff.1 h
          obtain ⟨rfl, rfl⟩ := runs_pure_iff.1 h
          obtain ⟨rfl, rfl⟩ := ih hrest
          rw [runs_call_iff.1 hprint, List.append_nil]
          exact ⟨rfl, rfl⟩

theorem of_runs_showOutcomes {outcomes : List HostOutcome} {n : Nat}
    (h : Runs (showOutcomes outcomes) trace n) :
    trace = (outcomes.filterMap HostOutcome.report?).map shown ∧
      n = HostOutcome.failuresOf outcomes := by
  obtain ⟨t, u, failed, rfl, hshow, h⟩ := runs_bind_iff.1 h
  obtain ⟨rfl, rfl⟩ := runs_pure_iff.1 h
  obtain ⟨rfl, rfl⟩ := of_runs_showReports hshow
  rw [List.append_nil, List.filterMap_filterMap,
    HostOutcome.failuresOf_filterMap_add_countP]
  exact ⟨rfl, rfl⟩

/-- Where no host breaks down, this is the update of the program. -/
theorem updateBreaking_eq_update (turns : List Nat) (fleet : Fleet) (args : UpdateArguments) :
    updateBreaking turns (fun _ => none) fleet args = update turns fleet args := by
  unfold updateBreaking update
  cases chosenServices fleet args with
  | error e => rfl
  | ok services =>
      have hmap := interleave_map (I := commandInterface) some turns
        (services.map (onService args (args.policy fleet.config.updater.policy)))
      rw [List.map_map] at hmap
      simp only [breaking_none]
      refine (congrArg (bind · _) hmap).trans ((bind_bind _ _ _).trans ?_)
      refine congrArg (bind _) (funext fun results => ?_)
      change Program.bind (showOutcomes (results.map some)) _ = _
      rw [showOutcomes_map_some]
      refine congrArg (bind _) (funext fun failed => ?_)
      unfold verdict
      split <;> rfl

/-- The update of one of the chosen hosts, which may break down. -/
def onServiceBreaking (args : UpdateArguments) (policy : UpdatePolicy)
    (breakdown : String → Option Nat) (service : Host × HostService) :
    CommandProgram HostOutcome :=
  (onService args policy service).breaking (breakdown service.1.name)

theorem verdict_eq_ok_iff {n : Nat} : verdict n = .ok () ↔ n = 0 := by
  unfold verdict
  split <;> simp_all

theorem exists_sideBySide_of_runs_updateBreaking
    (hservices : chosenServices fleet args = .ok services)
    (h : Runs (updateBreaking turns breakdown fleet args) trace result) :
    ∃ tagged outcomes,
      SideBySide (services.map
        (onServiceBreaking args (args.policy fleet.config.updater.policy) breakdown))
        tagged outcomes ∧
      trace = tagged.map Prod.snd ++ (outcomes.filterMap HostOutcome.report?).map shown ∧
      result = verdict (HostOutcome.failuresOf outcomes) := by
  unfold updateBreaking at h
  rw [hservices] at h
  obtain ⟨t, u, outcomes, rfl, hupdates, h⟩ := runs_bind_iff.1 h
  obtain ⟨v, w, failed, rfl, hshow, h⟩ := runs_bind_iff.1 h
  obtain ⟨rfl, rfl⟩ := runs_pure_iff.1 h
  obtain ⟨rfl, rfl⟩ := of_runs_showOutcomes hshow
  obtain ⟨tagged, rfl, hside⟩ := exists_sideBySide_of_interleave hupdates
  exact ⟨tagged, outcomes, hside, by rw [List.append_nil], rfl⟩

section Chosen

variable {name localName : String} {host : Host} {s : HostService} {steps : List Registry.Step}

/-- What is found out for every member of a list, when each finding shows its member. -/
theorem of_mapM_eq_ok {α β ε : Type} {f : α → Except ε β} {g : β → α} {P : β → Prop}
    (hf : ∀ x y, f x = .ok y → g y = x ∧ P y) {xs : List α} {ys : List β}
    (h : xs.mapM f = .ok ys) : ys.map g = xs ∧ ∀ y ∈ ys, P y := by
  induction xs generalizing ys with
  | nil =>
      cases h
      exact ⟨rfl, List.forall_mem_nil _⟩
  | cons x xs ih =>
      rw [List.mapM_cons] at h
      cases hx : f x with
      | error e =>
          rw [hx] at h
          cases h
      | ok y =>
          rw [hx] at h
          cases hxs : xs.mapM f with
          | error e =>
              rw [hxs] at h
              cases h
          | ok rest =>
              rw [hxs] at h
              cases h
              obtain ⟨hy, hP⟩ := hf x y hx
              obtain ⟨hrest, hPrest⟩ := ih hxs
              exact ⟨by rw [List.map_cons, hy, hrest], List.forall_mem_cons.2 ⟨hP, hPrest⟩⟩

/-- A service that was found is that of a connected host, which has the name that was asked for. -/
theorem of_service_eq_ok (hhistory : Registry.History (.empty localName) steps fleet.registry)
    {f : RegistryError → CommandError}
    (h : (fleet.service name).mapError f = .ok (host, s)) :
    host.name = name ∧ s.host.name = host.name := by
  cases hget : fleet.registry.get name with
  | error e =>
      rw [Fleet.service, hget] at h
      cases h
  | ok found =>
      rw [Fleet.service, hget] at h
      cases h
      exact ⟨(hhistory.answered (Registry.get_eq_ok_iff.1 hget)).1, rfl⟩

theorem of_chosenService (hhistory : Registry.History (.empty localName) steps fleet.registry)
    {chosen : Option String} (h : chosenService fleet chosen = .ok (host, s)) :
    s.host.name = host.name := by
  unfold chosenService at h
  split at h
  · split at h
    · exact (of_service_eq_ok hhistory h).2
    · cases h
  · unfold Fleet.defaultService at h
    split at h
    · cases h
    · exact (of_service_eq_ok hhistory h).2

/-- The chosen hosts are in the order of their names, without repetition. -/
theorem of_chosenServices (hhistory : Registry.History (.empty localName) steps fleet.registry)
    (h : chosenServices fleet args = .ok services) :
    (services.map fun service => service.1.name).Pairwise (· < ·) ∧
      ∀ service ∈ services, service.2.host.name = service.1.name := by
  unfold chosenServices at h
  split at h
  · obtain ⟨hnames, hservice⟩ := of_mapM_eq_ok
      (g := fun service => service.1.name) (P := fun service => service.2.host.name = service.1.name)
      (fun _ _ => of_service_eq_ok hhistory) h
    exact ⟨hnames ▸ Registry.pairwise_names hhistory.nodup_keys, hservice⟩
  · cases hone : chosenService fleet args.host with
    | error e =>
        rw [hone] at h
        cases h
    | ok service =>
        rw [hone] at h
        cases h
        exact ⟨List.pairwise_singleton _ _,
          List.forall_mem_singleton.2 (of_chosenService hhistory hone)⟩

end Chosen

theorem host_of_starts {s : HostService} {t : List UpdateExchange} {report : UpdateReport}
    (h : Starts s args policy t (.ok report)) : report.host = s.host.name := by
  cases h with
  | ran _ _ hrun =>
      obtain ⟨visits, closing, hparts⟩ := UpdateRun.exists_runParts hrun
      have hcloses := hparts.closes
      cases hcloses <;> rfl

/-- An update of chosen hosts, any of which may break down: `outcomes` is what came of them, in the
order of their names. -/
structure Concludes (args : UpdateArguments) (policy : UpdatePolicy)
    (breakdown : String → Option Nat) (services : List (Host × HostService))
    (outcomes : List HostOutcome) (trace : List (Exchange commandInterface))
    (result : Except CommandError Unit) : Prop where
  sorted : (services.map fun service => service.1.name).Pairwise (· < ·)
  /-- Every host is updated, whatever becomes of the others, and then all reports are printed in the
  order of the hosts. -/
  exists_tagged : ∃ tagged,
    SideBySide (services.map (onServiceBreaking args policy breakdown)) tagged outcomes ∧
      trace = tagged.map Prod.snd ++ (outcomes.filterMap HostOutcome.report?).map shown
  host_eq : ∀ (i : Nat) service report, services[i]? = some service →
    outcomes[i]? = some (some (.ok report)) → report.host = service.1.name
  ok_iff : result = .ok () ↔ ∀ o ∈ outcomes, o.ContainersSucceeded

variable {steps : List Registry.Step} {localName : String}

theorem exists_concludes (hhistory : Registry.History (.empty localName) steps fleet.registry)
    (hservices : chosenServices fleet args = .ok services)
    (h : Runs (updateBreaking turns breakdown fleet args) trace result) :
    ∃ outcomes, Concludes args (args.policy fleet.config.updater.policy) breakdown services outcomes
      trace result := by
  obtain ⟨tagged, outcomes, hside, rfl, rfl⟩ :=
    exists_sideBySide_of_runs_updateBreaking hservices h
  obtain ⟨hsorted, hnames⟩ := of_chosenServices hhistory hservices
  refine ⟨outcomes, hsorted, ⟨tagged, hside, rfl⟩, fun i service report hservice hreport => ?_, ?_⟩
  · obtain ⟨o, ho, hown⟩ := hside.runs i (onServiceBreaking args _ breakdown service)
      (by rw [List.getElem?_map, hservice, Option.map_some])
    obtain rfl : some (.ok report) = o := Option.some.inj (hreport.symm.trans ho)
    obtain ⟨t, hrun, -⟩ := runs_onHost_iff.1 (runs_of_breaking hown)
    rw [host_of_starts (starts_of_runs hrun), hnames service (List.mem_of_getElem? hservice)]
  · rw [verdict_eq_ok_iff, HostOutcome.failuresOf_eq_zero_iff]

/-- The command succeeds exactly when all updates did, unless the update of the program's own container
failed and nothing else: then it succeeds all the same. -/
theorem update_ok_iff (hhistory : Registry.History (.empty localName) steps fleet.registry)
    (hservices : chosenServices fleet args = .ok services)
    (h : Runs (updateBreaking turns breakdown fleet args) trace result) :
    ∃ outcomes, Concludes args (args.policy fleet.config.updater.policy) breakdown services outcomes
        trace result ∧
      ((result = .ok () ↔ ∀ o ∈ outcomes, o.Succeeded) ↔
        ¬ ((∀ o ∈ outcomes, o.ContainersSucceeded) ∧
          ∃ report, some (.ok report) ∈ outcomes ∧ report.selfUpdate.isFailure = true)) := by
  obtain ⟨outcomes, hconcludes⟩ := exists_concludes hhistory hservices h
  refine ⟨outcomes, hconcludes, ?_⟩
  rw [hconcludes.ok_iff]
  constructor
  · rintro hiff ⟨hcontainers, report, hreport, hfailed⟩
    obtain ⟨other, heq, -, hself⟩ := hiff.1 hcontainers _ hreport
    cases heq
    cases hfailed.symm.trans hself
  · intro hnot
    refine ⟨fun hcontainers o ho => (hcontainers o ho).succeeded fun report hreport => ?_,
      fun hall o ho => (hall o ho).containersSucceeded⟩
    exact Bool.eq_false_iff.2 fun hfailed => hnot ⟨hcontainers, report, hreport ▸ ho, hfailed⟩

/-- Connections that all come about. -/
def connectAny (q : ConnectionRequest) (s : Unit) : q.Reply × Unit :=
  (connectLocal q, s)

/-- This machine, the other one through a session, and this machine once more. -/
def connectedTwo : List Registry.Step × Registry × Unit :=
  Registry.play connectAny [.add "local" none, .add "edge" (some ⟨"edge", 1⟩), .add "local" none]
    (.empty "local") ()

theorem history_twoHosts : Registry.History (.empty "local") connectedTwo.1 twoHosts.registry :=
  Registry.history_play connectAny _ _ ()

/-- The update of the other machine breaks down after two requests. -/
def edgeBreaksDown (name : String) : Option Nat :=
  if name = "edge" then some 2 else none

/-- The exchanges of an update with the two machines when the other one breaks down, and what it ends
with. -/
def ranBreaking (turns : List Nat) (args : UpdateArguments) :
    List (Exchange commandInterface) × Except CommandError Unit × MemoryDaemon × MemoryDaemon :=
  (updateBreaking turns edgeBreaksDown twoHosts args).converse serveTwo bothOutdated

/-- The command fails, since the update of the other machine broke down. -/
theorem update_ok_iff_bothOutdated :
    (ranBreaking [0, 1] (plainUpdate none true)).2.1 ≠ .ok () ∧
      ∃ outcomes, Concludes (plainUpdate none true)
        ((plainUpdate none true).policy FleetConfig.default.updater.policy) edgeBreaksDown
        (twoHosts.registry.hosts.map fun entry => (entry.2, twoHosts.serviceOf entry.2)) outcomes
        (ranBreaking [0, 1] (plainUpdate none true)).1
        (ranBreaking [0, 1] (plainUpdate none true)).2.1 ∧
      ¬ ∀ o ∈ outcomes, o.Succeeded := by
  have hrefused : (ranBreaking [0, 1] (plainUpdate none true)).2.1.toOption = none := by
    rw [ranBreaking, updateBreaking, chosenServices_twoHosts]
    decide +kernel
  have hne : (ranBreaking [0, 1] (plainUpdate none true)).2.1 ≠ .ok () := by
    intro h
    rw [h] at hrefused
    cases hrefused
  obtain ⟨outcomes, hconcludes, hiff⟩ := update_ok_iff history_twoHosts chosenServices_twoHosts
    (runs_converse (I := commandInterface) serveTwo
      (updateBreaking [0, 1] edgeBreaksDown twoHosts (plainUpdate none true)) bothOutdated)
  refine ⟨hne, outcomes, hconcludes, fun hall => hne ((hiff.2 ?_).2 hall)⟩
  rintro ⟨hcontainers, -⟩
  exact hne (hconcludes.ok_iff.2 hcontainers)

/-- Where one host is chosen, its report is printed and decides. -/
theorem runs_update_of_runs {service : Host × HostService} {report : UpdateReport}
    (hservices : chosenServices fleet args = .ok [service])
    (h : Runs (onService args (args.policy fleet.config.updater.policy) service) trace
      (.ok report)) :
    Runs (update [] fleet args) (trace ++ [shown report]) (verdict report.failed) := by
  have hresults : Runs (interleave []
      ([service].map (onService args (args.policy fleet.config.updater.policy)))) trace
      [.ok report] := by
    rw [← List.append_nil trace]
    exact h.bind (Runs.done (I := commandInterface) [Except.ok report])
  have hshow : Runs (showReports [.ok report]) [shown report] report.failed :=
    Runs.ask (I := commandInterface) (q := CommandRequest.print report.toText) ()
      (Runs.done report.failed)
  unfold update
  rw [hservices, ← List.append_nil [shown report]]
  refine hresults.bind (hshow.bind ?_)
  unfold verdict
  split <;> exact Runs.done _

/-- This machine, with what can be done on it. -/
def thisMachine : Host × HostService :=
  let host : Host := ⟨"local", (0 : Int), ⟨"local", 1⟩, none⟩
  (host, twoHosts.serviceOf host)

/-- The update of this machine as the command line asks for it. -/
def onThisMachine : CommandProgram (Except UpdateError UpdateReport) :=
  onService (plainUpdate (some "local") false)
    ((plainUpdate (some "local") false).policy twoHosts.config.updater.policy) thisMachine

/-- The only container of this machine is the program's own. The helper is not there, so its update
fails, and the command succeeds. -/
theorem not_succeeded_bothOutdated :
    ∃ trace report,
      chosenServices twoHosts (plainUpdate (some "local") false) = .ok [thisMachine] ∧
      Runs onThisMachine trace (.ok report) ∧
      Runs (update [] twoHosts (plainUpdate (some "local") false)) (trace ++ [shown report])
        (.ok ()) ∧
      ¬ HostOutcome.Succeeded (some (.ok report)) := by
  have hservices : chosenServices twoHosts (plainUpdate (some "local") false) = .ok [thisMachine] :=
    rfl
  have hran := runs_converse (I := commandInterface) serveTwo onThisMachine bothOutdated
  have hfailed : (onThisMachine.converse serveTwo bothOutdated).2.1.toOption.any
      (fun report => report.failed == 0 && report.selfUpdate.isFailure) = true := by
    decide +kernel
  cases hresult : (onThisMachine.converse serveTwo bothOutdated).2.1 with
  | error e =>
      rw [hresult] at hfailed
      cases hfailed
  | ok report =>
      rw [hresult] at hran hfailed
      obtain ⟨hcount, hself⟩ := (Bool.and_eq_true_iff).1 hfailed
      refine ⟨_, report, hservices, hran, ?_, ?_⟩
      · have hrun := runs_update_of_runs hservices hran
        rwa [eq_of_beq hcount] at hrun
      · rintro ⟨other, heq, -, hother⟩
        cases heq
        cases hself.symm.trans hother

end Command

end ContainerFleet
