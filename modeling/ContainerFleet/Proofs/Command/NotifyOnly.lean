import ContainerFleet.Proofs.Command.Hosts
import ContainerFleet.Proofs.Update.Recording

/-!
Which ways to start an update run respect that newer images are only to be recorded. Main statements:
`leavesAlone_updateHost_iff`, that on one host all do but the one for the program's own container,
and `run_leavesFleetAlone`, what that means for the whole program.
-/

namespace ContainerFleet

open Program

/-- Update code that changes nothing and asks no address, whatever the world replies. -/
abbrev LeavesAlone {α : Type} (p : UpdateProgram α) : Prop :=
  AsksOnly (I := updateInterface) (fun q => UpdateRequest.intervenes q = false) p

theorem Looking.handsOff {trace : List UpdateExchange} (h : Looking trace) : HandsOff trace := by
  intro x hx
  obtain ⟨call, hrequest, hcall⟩ := h x hx
  rw [hrequest]
  exact hcall

namespace UpdateRun

variable (updater : Updater) {host : RunHost} {policy : UpdatePolicy} {c : ContainerRecord}

/-- In some world the registry has another image for a container, and it is pulled unless newer
images are only recorded. -/
theorem exists_pulling_mem (hchange : policy.notifyOnly = false)
    (hclass : c.classify policy host.isLocal = .eligible)
    (himage : Digest.isImageId c.image = false) :
    ∃ trace report, Runs (run updater host policy [c]) trace report ∧
      pulling c.image none ∈ trace := by
  have hlook := (DigestCheck.LooksUp.compared himage ⟨"", []⟩ "n").runs
  generalize [said (.image c.image) _, said (.registryDigest c.image) _] = t at hlook
  have havailable : (DigestCheck.ofImage ⟨"", []⟩ "n").updateAvailable = true := by decide
  have hpull : Runs (pullAndReplace updater c) [pulling c.image none]
      (.failed "cancelled during pull") :=
    runs_bind_iff.2 ⟨[pulling c.image none], [], none, rfl, runs_call_iff.2 rfl,
      runs_pure_iff.2 ⟨rfl, rfl⟩⟩
  have hprocess : Runs (process updater host policy c) (t ++ [pulling c.image none])
      (.failed "cancelled during pull") := by
    refine runs_bind_iff.2 ⟨t, _, _, rfl, hlook, ?_⟩
    simpa [havailable, hchange] using hpull
  have hstep : Runs (step updater host policy c) (t ++ [pulling c.image none])
      (.ofOutcome c (.failed "cancelled during pull")) := by
    refine runs_bind_iff.2 ⟨[], _, .ok c, rfl, ?_, ?_⟩
    · unfold ContainerRecord.resolveReference
      rw [if_neg (by simp [himage])]
      exact runs_pure_iff.2 ⟨rfl, rfl⟩
    · simp only [hclass]
      exact runs_bind_iff.2 ⟨_, [], _, (List.append_nil _).symm, hprocess,
        runs_pure_iff.2 ⟨rfl, rfl⟩⟩
  have hwalk : Runs (walk updater host policy [c] none) (asked false :: (t ++ [pulling c.image none]))
      ⟨[⟨c.id, c.name, c.image, .failed "cancelled during pull"⟩], none, false⟩ := by
    refine runs_bind_iff.2 ⟨[asked false], _, false, rfl, runs_call_iff.2 rfl, ?_⟩
    refine runs_bind_iff.2 ⟨_, [], _, (List.append_nil _).symm, hstep, ?_⟩
    exact runs_bind_iff.2 ⟨[], [], ⟨[], none, false⟩, rfl, runs_pure_iff.2 ⟨rfl, rfl⟩,
      runs_pure_iff.2 ⟨rfl, rfl⟩⟩
  refine ⟨(asked false :: (t ++ [pulling c.image none])) ++ [asked true],
    ⟨host.name, [⟨c.id, c.name, c.image, .failed "cancelled during pull"⟩], none, .notDeferred,
      true⟩, ?_, by simp⟩
  exact runs_bind_iff.2 ⟨_, [asked true], _, rfl, hwalk, runs_bind_iff.2
    ⟨[asked true], [], true, rfl, runs_call_iff.2 rfl, runs_pure_iff.2 ⟨rfl, rfl⟩⟩⟩

end UpdateRun

/-- The way to update the program's own container has choices of its own: it pulls whatever was
asked for. -/
theorem HostService.not_leavesAlone_updateSelf (s : HostService) (id : String) :
    ¬ LeavesAlone (s.updateSelf id) := by
  intro h
  let c : ContainerRecord := ⟨id, "", "app:1", "", [], none⟩
  let policy : UpdatePolicy :=
    { UpdatePolicy.plain with allowSelfUpdate := true, forceUpdate := true }
  have hmatch : [c].filter (fun c => c.matchesSelector id) = [c] := by
    simp [c, ContainerRecord.matchesSelector]
  have hclass : c.classify policy s.host.isLocal = .eligible := by
    change (LabelSet.ofRaw []).classify policy s.host.isLocal = .eligible
    cases s.host.isLocal <;> rfl
  have himage : Digest.isImageId "app:1" = false := by decide
  obtain ⟨trace, report, hrun, hpull⟩ :=
    UpdateRun.exists_pulling_mem s.updater rfl hclass himage
  have hself : Runs (s.updateSelf id) (said (.list true) (.ok [c]) :: (trace ++ []))
      (.ok report) := by
    apply UpdateProgram.runs_said_cons
    simp only [hmatch]
    exact runs_bind_iff.2 ⟨trace, [], report, rfl, hrun, runs_pure_iff.2 ⟨rfl, rfl⟩⟩
  have hhands := h _ _ hself (pulling c.image none) (by simp [hpull])
  cases hhands

namespace Command

variable {args : UpdateArguments} {policy : UpdatePolicy}

/-- Where newer images are only to be recorded, the update of a host changes nothing unless it is
for the program's own container; that one may pull. -/
theorem leavesAlone_updateHost_iff (s : HostService) (hnotify : policy.notifyOnly = true) :
    LeavesAlone (updateHost s args policy) ↔ args.selfContainer = none := by
  constructor
  · intro h
    cases hself : args.selfContainer with
    | none => rfl
    | some id =>
        refine absurd ?_ (s.not_leavesAlone_updateSelf id)
        simpa [updateHost, hself] using h
  · intro hself trace result hrun
    cases starts_of_runs hrun with
    | refused h => exact h.handsOff
    | ran h hpolicy hupdate =>
        have hchosen := (hpolicy hself).trans hnotify
        exact h.handsOff.append (UpdateRun.handsOff_of_runs_run hchosen hupdate)

end Command

/-- Whether a request of the program asks a daemon for a change, or an address on behalf of a host. -/
def CommandRequest.intervenes : CommandRequest → Bool
  | .onHost _ q => q.intervenes
  | _ => false

/-- Code of the program that changes nothing on any host. -/
abbrev LeavesFleetAlone {α : Type} (p : CommandProgram α) : Prop :=
  AsksOnly (I := commandInterface) (fun q => CommandRequest.intervenes q = false) p

namespace CommandProgram

theorem leavesFleetAlone_ofFiles {α : Type} (p : FileProgram α) : LeavesFleetAlone (ofFiles p) :=
  AsksOnly.interpret (P := fun _ => True) (fun _ _ _ _ _ => trivial) fun _ _ => asksOnly_call rfl

theorem leavesFleetAlone_ofConnections {α : Type} (p : ConnectionProgram α) :
    LeavesFleetAlone (ofConnections p) :=
  AsksOnly.interpret (P := fun _ => True) (fun _ _ _ _ _ => trivial) fun _ _ => asksOnly_call rfl

theorem leavesFleetAlone_onHost {α : Type} (client : Handle) {p : UpdateProgram α}
    (hp : LeavesAlone p) : LeavesFleetAlone (onHost client p) :=
  hp.interpret fun _ hq => asksOnly_call hq

theorem leavesFleetAlone_print (text : String) : LeavesFleetAlone (print text) :=
  asksOnly_call rfl

end CommandProgram

namespace Command

variable {args : UpdateArguments}

theorem leavesFleetAlone_showReports (results : List (Except UpdateError UpdateReport)) :
    LeavesFleetAlone (showReports results) := by
  induction results with
  | nil => exact asksOnly_pure _
  | cons result rest ih =>
      cases result with
      | error e => exact ih.bind fun _ => asksOnly_pure _
      | ok report =>
          exact (CommandProgram.leavesFleetAlone_print report.toText).bind fun _ =>
            ih.bind fun _ => asksOnly_pure _

theorem leavesFleetAlone_update (turns : List Nat) (fleet : Fleet)
    (hself : args.selfContainer = none)
    (hnotify : (args.policy fleet.config.updater.policy).notifyOnly = true) :
    LeavesFleetAlone (update turns fleet args) := by
  unfold update
  split
  · exact asksOnly_pure _
  · apply AsksOnly.bind
    · apply asksOnly_interleave
      intro p hp
      obtain ⟨⟨host, s⟩, -, rfl⟩ := List.mem_map.1 hp
      exact CommandProgram.leavesFleetAlone_onHost host.client
        ((leavesAlone_updateHost_iff s hnotify).2 hself)
    · intro results
      apply (leavesFleetAlone_showReports results).bind
      intro failed
      split
      · exact asksOnly_pure _
      · exact asksOnly_pure _

theorem yields_bootstrap_config (turns : List Nat) (fleet : Fleet) :
    Yields (fun r => r.2.config = fleet.config) (fleet.bootstrap turns) :=
  yields_bind fun _ => yields_pure rfl

/-- The configuration is settled by the time the fleet is connected, with its store. -/
def configured (config : FleetConfig) : Exchange commandInterface :=
  ⟨CommandRequest.configure config, ()⟩

/-- An update where newer images are only to be recorded, as the command line or the configuration
says, with any other options, over any fleet, and whatever the world replies. Nothing reaches a
daemon that changes a container or an image reference, and no address is asked, unless the update is
for the program's own container; and of the updates of a host, exactly that one may do so. -/
theorem run_leavesFleetAlone {turns : Turns} {env : Environment} {a : Arguments}
    {trace : List (Exchange commandInterface)} {result : Except CommandError Unit}
    (hrun : Runs (run turns env a) trace result) (haction : a.action = .update args)
    (hnotify : args.notifyOnly = true ∨
      ∀ config, configured config ∈ trace → config.updater.notifyOnly = true) :
    (args.selfContainer = none → ∀ x ∈ trace, CommandRequest.intervenes x.request = false) ∧
      ∀ (s : HostService) (policy : UpdatePolicy), policy.notifyOnly = true →
        (LeavesAlone (updateHost s args policy) ↔ args.selfContainer = none) := by
  refine ⟨fun hself => ?_, fun s policy => leavesAlone_updateHost_iff s⟩
  obtain ⟨t, u, config, rfl, hload, h⟩ := runs_bind_iff.1 hrun
  refine List.forall_mem_append.2 ⟨CommandProgram.leavesFleetAlone_ofFiles _ _ _ hload, ?_⟩
  cases config with
  | error e =>
      rw [(runs_pure_iff.1 h).1]
      exact List.forall_mem_nil _
  | ok config =>
      obtain ⟨v, w, _, rfl, hconfigure, h⟩ := runs_bind_iff.1 h
      rw [runs_call_iff.1 hconfigure] at hnotify ⊢
      have hpolicy : (args.policy config.updater.policy).notifyOnly = true := by
        refine Bool.or_eq_true_iff.2 (hnotify.symm.imp_left fun hconfig => ?_)
        exact hconfig config (List.mem_append_right t List.mem_cons_self)
      refine List.forall_mem_append.2 ⟨by simp [CommandRequest.intervenes], ?_⟩
      obtain ⟨x, y, ⟨default, fleet⟩, rfl, hconnect, h⟩ := runs_bind_iff.1 h
      have hfleet : fleet.config = config :=
        (yields_bootstrap_config _ _).interpret _ _ hconnect
      refine List.forall_mem_append.2
        ⟨CommandProgram.leavesFleetAlone_ofConnections _ _ _ hconnect, ?_⟩
      cases default with
      | error e =>
          rw [(runs_pure_iff.1 h).1]
          exact List.forall_mem_nil _
      | ok default =>
          rw [← hfleet] at hpolicy
          rw [haction] at h
          have hact : LeavesFleetAlone (update turns.updating fleet args) :=
            leavesFleetAlone_update turns.updating fleet hself hpolicy
          refine (hact.bind fun result => ?_) _ _ h
          exact (CommandProgram.leavesFleetAlone_ofConnections _).bind fun _ => asksOnly_pure _

section Local

/-- Nothing is found on the disk. -/
def noFiles : (q : Files.Request) → q.Reply
  | .isThere _ => false
  | .read _ => Except.error .notFound
  | .makeDirectories _ => Except.error .notFound
  | .write _ _ => Except.error .notFound
  | .rename _ _ => Except.error .notFound

/-- The daemon of this machine can be reached, and there are no other machines. -/
def connectLocal : (q : ConnectionRequest) → q.Reply
  | .openSession _ => Attempted.done none
  | .dial host _ => .connected ⟨host, 1⟩
  | .probe _ => Probed.answered ⟨"memory", "", ""⟩
  | .closeClient _ => ()
  | .closeSession _ => ()
  | .now => (0 : Int)

/-- A machine without a configuration file, whose daemon carries out every call. -/
def serveLocal (q : CommandRequest) (d : MemoryDaemon) : q.Reply × MemoryDaemon :=
  match q with
  | .file q => (noFiles q, d)
  | .configure _ => ((), d)
  | .connection q => (connectLocal q, d)
  | .onHost _ q => MemoryDaemon.serve q d
  | .print _ => ((), d)

/-- The exchanges of the program with a machine, what it ends with, and the daemon afterwards. -/
def ranLocal (args : UpdateArguments) (d : MemoryDaemon) :
    List (Exchange commandInterface) × Except CommandError Unit × MemoryDaemon :=
  (run ⟨[], []⟩ ⟨"/root", none⟩ ⟨none, .update args⟩).converse serveLocal d

theorem runs_ranLocal (args : UpdateArguments) (d : MemoryDaemon) :
    Runs (run ⟨[], []⟩ ⟨"/root", none⟩ ⟨none, .update args⟩) (ranLocal args d).1
      (ranLocal args d).2.1 :=
  runs_converse (I := commandInterface) serveLocal _ d

/-- Newer images are to be recorded, and perhaps this program's own container is to be replaced. -/
def recordOnly (selfContainer : Option String) : UpdateArguments where
  host := none
  allHosts := false
  force := false
  notifyOnly := true
  optInOnly := false
  allowSelf := false
  image := none
  containers := []
  selfContainer := selfContainer

/-- Two containers for which the registry has a newer image are left alone. -/
theorem run_leavesFleetAlone_siblings :
    parse ["update", "--notify-only"] = .run ⟨none, .update (recordOnly none)⟩ ∧
      (recordOnly none).selfContainer = none ∧
      (∀ x ∈ (ranLocal (recordOnly none) UpdateRun.siblings).1,
        CommandRequest.intervenes x.request = false) ∧
      (ranLocal (recordOnly none) UpdateRun.siblings).2.2.containers.map MemoryContainer.id =
        ["c1", "c2"] :=
  ⟨by decide +kernel, rfl,
    (run_leavesFleetAlone (runs_ranLocal (recordOnly none) UpdateRun.siblings) rfl
      (.inl rfl)).1 rfl,
    by decide +kernel⟩

/-- With the same flag the newer image is pulled and a container replaced when it is named as this
program's own. -/
theorem not_leavesFleetAlone_siblings :
    parse ["update", "--notify-only", "--self-container", "c1"] =
        .run ⟨none, .update (recordOnly (some "c1"))⟩ ∧
      (∃ x ∈ (ranLocal (recordOnly (some "c1")) UpdateRun.siblings).1,
        CommandRequest.intervenes x.request = true) ∧
      (ranLocal (recordOnly (some "c1")) UpdateRun.siblings).2.2.containers.map
        MemoryContainer.id = ["c2", "new1"] := by
  decide +kernel

end Local

end Command

end ContainerFleet
