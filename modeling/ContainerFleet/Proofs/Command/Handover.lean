import ContainerFleet.Proofs.Command.NotifyOnly
import ContainerFleet.Proofs.Update.Handover

/-!
When the program asks the helper to replace its own container while it updates several hosts side by
side. Main statement: `update_handedOver`, that the host on which this container is has been dealt
with by then, whatever the turns; of the other hosts nothing is known.
-/

namespace ContainerFleet

open Program Command CommandProgram

/-- Whether the program asks the helper on behalf of a host. -/
def CommandRequest.asksHelper : CommandRequest → Bool
  | .onHost _ q => q.asksHelper
  | _ => false

/-- Whether the program asks a daemon to change a container or an image reference. -/
def CommandRequest.changesContainers : CommandRequest → Bool
  | .onHost _ q => q.changesContainers
  | _ => false

/-- The update of a host asks the helper in the exchange `y`: all containers that it is for were
visited before and have their entries, and nothing is changed afterwards. -/
structure HandsOver (s : HostService) (start : List UpdateExchange) (y : UpdateExchange)
    (rest : List UpdateExchange) (report : UpdateReport) : Prop where
  exists_parts : ∃ listing trace policy containers visits closing,
    start ++ y :: rest = listing ++ trace ∧ Looking listing ∧
    UpdateRun.RunParts s.updater s.host policy containers visits closing trace report ∧
    visits.map UpdateRun.Visit.listed = containers ∧
    listing ++ visits.flatMap UpdateRun.Visit.exchanges <+: start
  rest_looks : ∀ z ∈ rest, UpdateRequest.changesContainers z.request = false

variable {args : UpdateArguments} {policy : UpdatePolicy}

theorem Looking.not_mem_of_asksHelper {t : List UpdateExchange} {y : UpdateExchange}
    (h : Looking t) (hy : UpdateRequest.asksHelper y.request = true) : y ∉ t := by
  intro hmem
  obtain ⟨call, hrequest, -⟩ := h y hmem
  rw [hrequest] at hy
  cases hy

theorem handsOver_of_starts {s : HostService} {start rest : List UpdateExchange}
    {y : UpdateExchange} {result : Except UpdateError UpdateReport}
    (h : Starts s args policy (start ++ y :: rest) result)
    (hy : UpdateRequest.asksHelper y.request = true) :
    ∃ report, result = .ok report ∧ HandsOver s start y rest report := by
  generalize htrace : start ++ y :: rest = trace at h
  cases h with
  | refused h => exact absurd (by simp [← htrace]) (h.not_mem_of_asksHelper hy)
  | @ran listing t chosen containers report h hpolicy hrun =>
      obtain ⟨more, rfl, rfl⟩ := exists_of_append_eq_cons (h.not_mem_of_asksHelper hy) htrace.symm
      obtain ⟨visits, closing, hparts⟩ := UpdateRun.exists_runParts hrun
      obtain ⟨-, hlisted, hstart, hlooks⟩ := hparts.handedOver hy
      refine ⟨report, rfl, ⟨listing, more ++ y :: rest, chosen, containers, visits, closing,
        by simp, h, hparts, hlisted, ?_⟩, hlooks⟩
      exact (List.prefix_append_right_inj listing).2 hstart

namespace Command

variable {turns : List Nat} {fleet : Fleet} {before after : List (Exchange commandInterface)}
  {x : Exchange commandInterface} {result : Except CommandError Unit}

theorem print_of_runs_showReports {results : List (Except UpdateError UpdateReport)}
    {trace : List (Exchange commandInterface)} {n : Nat}
    (h : Runs (showReports results) trace n) :
    ∀ z ∈ trace, ∃ text, z.request = CommandRequest.print text := by
  induction results generalizing trace n with
  | nil =>
      rw [(runs_pure_iff.1 h).1]
      exact List.forall_mem_nil _
  | cons result results ih =>
      cases result with
      | error e =>
          obtain ⟨t, u, m, rfl, hrest, h⟩ := runs_bind_iff.1 h
          rw [(runs_pure_iff.1 h).1, List.append_nil]
          exact ih hrest
      | ok report =>
          obtain ⟨t, u, _, rfl, hprint, h⟩ := runs_bind_iff.1 h
          obtain ⟨v, w, m, rfl, hrest, h⟩ := runs_bind_iff.1 h
          rw [runs_call_iff.1 hprint, (runs_pure_iff.1 h).1, List.append_nil]
          exact List.forall_mem_cons.2 ⟨⟨_, rfl⟩, ih hrest⟩

/-- The update of one of the chosen hosts. -/
def onService (args : UpdateArguments) (policy : UpdatePolicy) (service : Host × HostService) :
    CommandProgram (Except UpdateError UpdateReport) :=
  onHost service.1.client (updateHost service.2 args policy)

/-- An update of the fleet consists of the updates of the chosen hosts side by side and of what is
printed about them. -/
theorem exists_sideBySide_of_runs_update {trace : List (Exchange commandInterface)}
    (h : Runs (update turns fleet args) trace result) (htrace : trace ≠ []) :
    ∃ services tagged results printed, chosenServices fleet args = .ok services ∧
      trace = tagged.map Prod.snd ++ printed ∧
      SideBySide (services.map (onService args (args.policy fleet.config.updater.policy))) tagged
        results ∧
      ∀ z ∈ printed, ∃ text, z.request = CommandRequest.print text := by
  unfold update at h
  split at h
  · exact absurd (runs_pure_iff.1 h).1 htrace
  · next services hservices =>
      obtain ⟨t, u, results, rfl, hupdates, h⟩ := runs_bind_iff.1 h
      obtain ⟨v, w, failed, rfl, hshow, h⟩ := runs_bind_iff.1 h
      have hend : w = [] := by
        split at h <;> exact (runs_pure_iff.1 h).1
      obtain ⟨tagged, rfl, hside⟩ := exists_sideBySide_of_interleave hupdates
      refine ⟨services, tagged, results, v, hservices, by rw [hend, List.append_nil], hside, ?_⟩
      exact print_of_runs_showReports hshow

/-- An exchange of one of the hosts that are updated side by side is one of the update of this
host. -/
theorem exists_of_mem_sideBySide {services : List (Host × HostService)}
    {tagged : List (Nat × Exchange commandInterface)}
    {results : List (Except UpdateError UpdateReport)} {i : Nat} {z : Exchange commandInterface}
    (hside : SideBySide (services.map (onService args policy)) tagged results)
    (hz : (i, z) ∈ tagged) :
    ∃ service t report, services[i]? = some service ∧
      Runs (updateHost service.2 args policy) t report ∧
      own i tagged = t.map (sent service.1.client) :=
  exists_runs_of_mem hside hz

/-- An update of any chosen hosts side by side, with any arguments and whatever the turns are and the
world replies. When the helper is asked, this is on behalf of one of the hosts, whose containers have
all been visited before; and what is changed afterwards is changed on behalf of other hosts. When
only one host is chosen, nothing is. -/
theorem update_handedOver (hrun : Runs (update turns fleet args) (before ++ x :: after) result)
    (hx : CommandRequest.asksHelper x.request = true) :
    ∃ services, ∃ i : Nat, ∃ host : Host, ∃ s start y rest report,
      chosenServices fleet args = .ok services ∧ services[i]? = some (host, s) ∧
      x = sent host.client y ∧ HandsOver s start y rest report ∧
      (start.map (sent host.client)).Sublist before ∧
      (∀ z ∈ after, CommandRequest.changesContainers z.request = true →
        ∃ j : Nat, ∃ other : Host × HostService, ∃ q, j ≠ i ∧ services[j]? = some other ∧
          z.request = CommandRequest.onHost other.1.client q) ∧
      (services.length = 1 → ∀ z ∈ after, CommandRequest.changesContainers z.request = false) := by
  obtain ⟨services, tagged, results, printed, hservices, htrace, hside, hprinted⟩ :=
    exists_sideBySide_of_runs_update hrun (by simp)
  have hnot : x ∉ printed := by
    intro hmem
    obtain ⟨text, hrequest⟩ := hprinted x hmem
    rw [hrequest] at hx
    cases hx
  obtain ⟨t, i, u, rfl, rfl, rfl⟩ := exists_tagged_of_append_eq htrace.symm hnot
  obtain ⟨⟨host, s⟩, mine, outcome, hservice, hmine, hown⟩ :=
    exists_of_mem_sideBySide hside (i := i) (z := x) (by simp)
  rw [own_append, own_cons_self] at hown
  obtain ⟨start, more, rfl, hstart, hmore⟩ := List.append_eq_map_iff.1 hown
  obtain ⟨y, rest, rfl, rfl, hrest⟩ := List.map_eq_cons_iff.1 hmore
  obtain ⟨report, -, hover⟩ := handsOver_of_starts (starts_of_runs hmine) hx
  have hothers : ∀ z ∈ u.map Prod.snd ++ printed,
      CommandRequest.changesContainers z.request = true →
        ∃ j : Nat, ∃ other : Host × HostService, ∃ q, j ≠ i ∧ services[j]? = some other ∧
          z.request = CommandRequest.onHost other.1.client q := by
    intro z hz hchange
    rcases List.mem_append.1 hz with hz | hz
    · obtain ⟨⟨j, z⟩, hu, rfl⟩ := List.mem_map.1 hz
      have htagged : (j, z) ∈ t ++ (i, sent host.client y) :: u := by simp [hu]
      obtain ⟨other, theirs, _, hother, -, htheirs⟩ := exists_of_mem_sideBySide hside htagged
      obtain ⟨w, -, rfl⟩ := List.mem_map.1 (htheirs ▸ mem_own.2 htagged)
      refine ⟨j, other, w.request, ?_, hother, rfl⟩
      rintro rfl
      obtain ⟨later, hlater, heq⟩ := List.mem_map.1 (hrest ▸ mem_own.2 hu)
      rw [← heq] at hchange
      cases (hover.rest_looks later hlater).symm.trans hchange
    · obtain ⟨text, hrequest⟩ := hprinted z hz
      rw [hrequest] at hchange
      cases hchange
  refine ⟨services, i, host, s, start, y, rest, report, hservices, hservice, rfl, hover, ?_,
    hothers, ?_⟩
  · rw [hstart]
    exact own_sublist
  · intro hone z hz
    apply Bool.eq_false_iff.2
    intro hchange
    obtain ⟨j, other, q, hne, hother, -⟩ := hothers z hz hchange
    have hi := (List.getElem?_eq_some_iff.1 hservice).1
    have hj := (List.getElem?_eq_some_iff.1 hother).1
    omega

/-- This machine, and another one. -/
def twoHosts : Fleet where
  config := FleetConfig.default
  registry :=
    { localName := "local"
      hosts := [("edge", ⟨"edge", (0 : Int), ⟨"edge", 1⟩, some ⟨"edge", 1⟩⟩),
        ("local", ⟨"local", (0 : Int), ⟨"local", 1⟩, none⟩)]
      elected := some "local" }

/-- An update of one host or of all. -/
def plainUpdate (host : Option String) (allHosts : Bool) : UpdateArguments where
  host := host
  allHosts := allHosts
  force := false
  notifyOnly := false
  optInOnly := false
  allowSelf := false
  image := none
  containers := []
  selfContainer := none

/-- The daemons of this machine and of the other one carry out every call. -/
def serveTwo (q : CommandRequest) (d : MemoryDaemon × MemoryDaemon) :
    q.Reply × MemoryDaemon × MemoryDaemon :=
  match q with
  | .file q => (noFiles q, d)
  | .configure _ => ((), d)
  | .connection q => (connectLocal q, d)
  | .onHost client q =>
    if client.host = "local" then
      let (reply, t) := MemoryDaemon.serve q d.1
      (reply, t, d.2)
    else
      let (reply, t) := MemoryDaemon.serve q d.2
      (reply, d.1, t)
  | .print _ => ((), d)

/-- The program's own container, which is outdated, is the only one of this machine; on the other
machine two are outdated. -/
def bothOutdated : MemoryDaemon × MemoryDaemon :=
  ({ UpdateRun.threeOutdated.daemon with
      containers := UpdateRun.threeOutdated.daemon.containers.take 1 },
    UpdateRun.siblings)

/-- The exchanges of an update with the two machines, and what it ends with. -/
def ranOnTwo (turns : List Nat) (args : UpdateArguments) :
    List (Exchange commandInterface) × Except CommandError Unit × MemoryDaemon × MemoryDaemon :=
  (update turns twoHosts args).converse serveTwo bothOutdated

/-- When only this machine is chosen, nothing is changed after the helper was asked. -/
theorem update_handedOver_bothOutdated :
    ∃ before x after, (ranOnTwo [] (plainUpdate (some "local") false)).1 = before ++ x :: after ∧
      CommandRequest.asksHelper x.request = true ∧
      ∀ z ∈ after, CommandRequest.changesContainers z.request = false := by
  have hlength : 8 < (ranOnTwo [] (plainUpdate (some "local") false)).1.length := by
    decide +kernel
  have hasks : CommandRequest.asksHelper
      (ranOnTwo [] (plainUpdate (some "local") false)).1[8].request = true := by
    decide +kernel +revert
  have hrun := runs_converse (I := commandInterface) serveTwo
    (update [] twoHosts (plainUpdate (some "local") false)) bothOutdated
  rw [← ranOnTwo, ← append_getElem_cons hlength] at hrun
  obtain ⟨services, -, -, -, -, -, -, -, hservices, -, -, -, -, -, hone⟩ :=
    update_handedOver hrun hasks
  have hsingle : services.length = 1 := by
    cases hservices
    rfl
  exact ⟨_, _, _, (append_getElem_cons hlength).symm, hasks, hone hsingle⟩

/-- The host and the call of an exchange in which a daemon is asked to change a container. -/
def changeOf? (x : Exchange commandInterface) : Option (String × String) :=
  match (x.request : CommandRequest) with
  | .onHost client (.daemon call) =>
    if call.changesContainers then some (client.host, call.toText) else none
  | _ => none

theorem chosenServices_twoHosts :
    chosenServices twoHosts (plainUpdate none true) =
      .ok (twoHosts.registry.hosts.map fun entry => (entry.2, twoHosts.serviceOf entry.2)) := by
  have hnames : twoHosts.registry.names = ["edge", "local"] :=
    List.mergeSort_of_pairwise (by decide)
  rw [chosenServices, hnames]
  rfl

/-- When both machines are chosen, the helper may be asked while the other one has its first container
stopped and its replacement not yet created, and the second one not visited. -/
theorem changed_after_handedOver_bothOutdated :
    ∃ before x after,
      (ranOnTwo (List.replicate 7 0 ++ List.replicate 9 1) (plainUpdate none true)).1 =
        before ++ x :: after ∧
      CommandRequest.asksHelper x.request = true ∧
      before.filterMap changeOf? = [("edge", "stop:c1:10000")] ∧
      after.filterMap changeOf? =
        [("edge", "create:web-dockman-update"), ("edge", "start:new1"), ("edge", "remove:c1"),
          ("edge", "rename:new1:web"), ("edge", "remove:c2"), ("edge", "create:job")] := by
  rw [ranOnTwo, update, chosenServices_twoHosts]
  refine ⟨_, _, _, (append_getElem_cons (n := 15) (by decide +kernel)).symm, ?_, ?_, ?_⟩ <;>
    decide +kernel

end Command

end ContainerFleet
