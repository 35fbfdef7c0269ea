import ContainerFleet.Proofs.Program.Conduct
import ContainerFleet.Store.Memory
import ContainerFleet.Update.World

/-!
What update code may meet when its daemon is one in memory: each call does what
`MemoryDaemon.perform` says, or fails with any error and has no effect. The store, the network, the
clock and the token by which a run is cancelled may reply anything. Main statements: one inversion
lemma for each call that succeeded, and `memoryRun_world`, by which every run against an `UpdateWorld`
is a run of this conduct.
-/

namespace ContainerFleet

namespace MemoryDaemon

/-- A call is carried out at some moment, or fails and has no effect. -/
def Answers (d : MemoryDaemon) (call : DaemonCall) (r : call.Reply) (t : MemoryDaemon) : Prop :=
  (∃ now, d.perform now call = (r, t)) ∨ ((∃ e, r = .error e) ∧ t = d)

/-- What may happen to a daemon in memory while update code asks for something. A pull that is
abandoned has no effect either. -/
def conduct : Conduct updateInterface MemoryDaemon := fun (q : UpdateRequest) d (r : q.Reply) t =>
  match q, r with
  | .daemon call, r => d.Answers call r t
  | .pull _, none => t = d
  | .pull image, some r => d.Answers (.pull image) r t
  | .store _, _ => t = d
  | .get _ _, _ => t = d
  | .now, _ => t = d
  | .sleepUntil _, _ => t = d
  | .isCancelled, _ => t = d

end MemoryDaemon

/-- Update code that ran against a daemon in memory. -/
abbrev MemoryRun {α : Type} (p : UpdateProgram α) (d : MemoryDaemon) (a : α) (t : MemoryDaemon) :
    Prop :=
  Program.RunsIn MemoryDaemon.conduct p d a t

namespace MemoryDaemon

variable {d t : MemoryDaemon} {now : Moment}

theorem Answers.served {call : DaemonCall} {a : call.Answer} (h : d.Answers call (.ok a) t) :
    ∃ now, d.perform now call = (.ok a, t) := by
  rcases h with h | ⟨⟨e, he⟩, -⟩
  · exact h
  · cases he

/-- A call that fails has no effect, whether the daemon refused it or never got it. -/
theorem perform_of_error {call : DaemonCall} {e : DaemonError}
    (h : d.perform now call = (.error e, t)) : t = d := by
  cases call <;> simp only [perform] at h <;> grind

theorem Answers.eq_of_error {call : DaemonCall} {e : DaemonError}
    (h : d.Answers call (.error e) t) : t = d := by
  rcases h with ⟨now, h⟩ | ⟨-, rfl⟩
  · exact perform_of_error h
  · rfl

theorem Answers.of_inspect {id : String} {old : ContainerDetails}
    (h : d.Answers (.inspect id) (.ok old) t) :
    t = d ∧ ∃ c now, d.find? id = some c ∧ old = c.details now := by
  obtain ⟨now, h⟩ := h.served
  simp only [perform] at h
  split at h
  · next c hc =>
      cases h
      exact ⟨rfl, c, now, hc, rfl⟩
  · cases h

theorem Answers.of_create {name id : String} {spec : ContainerSpec}
    (h : d.Answers (.create name spec) (.ok id) t) :
    (∀ c ∈ d.containers, c.name ≠ name) ∧ id = d.nextId ∧
      t = { d with
        containers := d.containers ++ [d.newContainer name spec]
        created := d.created + 1 } := by
  obtain ⟨now, h⟩ := h.served
  simp only [perform] at h
  split at h
  · cases h
  · next hfree =>
      cases h
      exact ⟨by simpa using hfree, rfl, rfl⟩

theorem Answers.of_start {id : String} (h : d.Answers (.start id) (.ok ()) t) :
    ∃ c now, d.find? id = some c ∧ t = d.modify id (d.started now) := by
  obtain ⟨now, h⟩ := h.served
  simp only [perform] at h
  split at h
  · next c hc =>
      cases h
      exact ⟨c, now, hc, rfl⟩
  · cases h

theorem Answers.of_stop {id : String} {timeout : Duration}
    (h : d.Answers (.stop id timeout) (.ok ()) t) :
    ∃ c, d.find? id = some c ∧ t = d.modify id fun c => { c with running := false } := by
  obtain ⟨now, h⟩ := h.served
  simp only [perform] at h
  split at h
  · next c hc =>
      cases h
      exact ⟨c, hc, rfl⟩
  · cases h

theorem Answers.of_remove {id : String} (h : d.Answers (.remove id) (.ok ()) t) :
    t = { d with containers := d.containers.eraseP fun c => c.id == id } := by
  obtain ⟨now, h⟩ := h.served
  simp only [perform] at h
  split at h
  · cases h
    rfl
  · cases h

theorem Answers.of_rename {id name : String} (h : d.Answers (.rename id name) (.ok ()) t) :
    ∃ c, d.find? id = some c ∧ (∀ o ∈ d.containers, o.name = name → o.id = c.id) ∧
      t = d.modify id fun c => { c with name := name } := by
  obtain ⟨now, h⟩ := h.served
  simp only [perform] at h
  split at h
  · next c hc =>
      split at h
      · cases h
      · next hfree =>
          cases h
          exact ⟨c, hc, by simpa using hfree, rfl⟩
  · split at h <;> cases h

theorem Answers.of_image {reference : String} {image : ImageDetails}
    (h : d.Answers (.image reference) (.ok image) t) :
    t = d ∧ d.images.get? reference = some image := by
  obtain ⟨now, h⟩ := h.served
  simp only [perform] at h
  split at h
  · next found =>
      cases h
      exact ⟨rfl, found⟩
  · cases h

theorem Answers.of_registryDigest {reference digest : String}
    (h : d.Answers (.registryDigest reference) (.ok digest) t) :
    t = d ∧ d.registry.get? reference = some digest := by
  obtain ⟨now, h⟩ := h.served
  simp only [perform] at h
  split at h
  · next found =>
      cases h
      exact ⟨rfl, found⟩
  · cases h

theorem Answers.of_pull {reference : String} (h : d.Answers (.pull reference) (.ok ()) t) :
    ∃ digest, d.registry.get? reference = some digest ∧
      t = { d with images := d.images.insert reference (pulledImage reference digest) } := by
  obtain ⟨now, h⟩ := h.served
  simp only [perform] at h
  split at h
  · next digest found =>
      cases h
      exact ⟨digest, found, rfl⟩
  · cases h

theorem Answers.of_prune {pruned : Pruned} (h : d.Answers .prune (.ok pruned) t) :
    pruned = d.dangling ∧ t = { d with dangling := ⟨[], 0⟩ } := by
  obtain ⟨now, h⟩ := h.served
  cases h
  exact ⟨rfl, rfl⟩

end MemoryDaemon

theorem memoryRun_daemon_iff {d t : MemoryDaemon} {call : DaemonCall} {r : call.Reply} :
    MemoryRun (UpdateProgram.daemon call) d r t ↔ d.Answers call r t :=
  Program.runsIn_call_iff

section Still

open Program MemoryDaemon

theorem still_inspect (id : String) : Still conduct (UpdateProgram.inspect id) := by
  intro d r t h
  replace h := memoryRun_daemon_iff.1 h
  cases r with
  | error e => exact h.eq_of_error
  | ok old => exact h.of_inspect.1

theorem still_image (reference : String) :
    Still conduct (UpdateProgram.daemon (.image reference)) := by
  intro d r t h
  replace h := memoryRun_daemon_iff.1 h
  cases r with
  | error e => exact h.eq_of_error
  | ok image => exact h.of_image.1

theorem still_registryDigest (reference : String) :
    Still conduct (UpdateProgram.daemon (.registryDigest reference)) := by
  intro d r t h
  replace h := memoryRun_daemon_iff.1 h
  cases r with
  | error e => exact h.eq_of_error
  | ok digest => exact h.of_registryDigest.1

theorem still_store (call : StoreCall) : Still conduct (UpdateProgram.store call) :=
  still_call fun _ _ _ h => h

theorem still_get (url : String) (timeout : Duration) :
    Still conduct (UpdateProgram.get url timeout) :=
  still_call fun _ _ _ h => h

theorem still_now : Still conduct UpdateProgram.now :=
  still_call fun _ _ _ h => h

theorem still_sleepUntil (moment : Moment) : Still conduct (UpdateProgram.sleepUntil moment) :=
  still_call fun _ _ _ h => h

theorem still_isCancelled : Still conduct UpdateProgram.isCancelled :=
  still_call fun _ _ _ h => h

end Still

namespace UpdateWorld

variable {σ : Type}

theorem daemon_fault (w : UpdateWorld σ) (call : String) : (w.fault call).2.daemon = w.daemon := by
  unfold fault
  split <;> rfl

theorem callDaemon_answers (w : UpdateWorld σ) (call : DaemonCall) :
    w.daemon.Answers call (w.callDaemon call).1 (w.callDaemon call).2.daemon := by
  have hlog := daemon_fault (w.log call.toText) call.toText
  unfold callDaemon
  split
  · next e w' h =>
      rw [h] at hlog
      exact .inr ⟨⟨e, rfl⟩, hlog⟩
  · next w' h =>
      rw [h] at hlog
      exact .inl ⟨w'.clock, by rw [← show w'.daemon = w.daemon from hlog]⟩

theorem pullImage_conduct (w : UpdateWorld σ) (image : String) :
    MemoryDaemon.conduct (.pull image) w.daemon (w.pullImage image).1
      (w.pullImage image).2.daemon := by
  have hlog := daemon_fault (w.log (DaemonCall.pull image).toText) (DaemonCall.pull image).toText
  unfold pullImage
  split
  · next e w' h =>
      rw [h] at hlog
      exact .inr ⟨⟨e, rfl⟩, hlog⟩
  · next w' h =>
      rw [h] at hlog
      replace hlog : w'.daemon = w.daemon := hlog
      split
      · exact hlog
      · exact .inl ⟨w'.clock, by rw [← hlog]⟩

/-- Every request that an update world replies to is replied to as a daemon in memory may. -/
theorem handle_conduct (backend : StoreBackend σ) (q : UpdateRequest) (w : UpdateWorld σ) :
    MemoryDaemon.conduct q w.daemon (handle backend q w).1 (handle backend q w).2.daemon := by
  cases q with
  | daemon call => exact callDaemon_answers w call
  | pull image => exact pullImage_conduct w image
  | store call =>
      change (w.callStore backend call).2.daemon = w.daemon
      simp only [callStore]
      split <;> rfl
  | get url timeout => rfl
  | now => rfl
  | sleepUntil moment => rfl
  | isCancelled => rfl

end UpdateWorld

/-- A run in an update world, with whatever rules of failing, network and clock it has. -/
theorem memoryRun_world {σ α : Type} (backend : StoreBackend σ) (p : UpdateProgram α)
    (w : UpdateWorld σ) :
    MemoryRun p w.daemon (p.run (UpdateWorld.handle backend) w).1
      (p.run (UpdateWorld.handle backend) w).2.daemon :=
  Program.runsIn_run (I := updateInterface) _ UpdateWorld.daemon
    (UpdateWorld.handle_conduct backend) p w

/-- The world around a daemon in which its calls fail by some rules and nothing else fails. No
address has anything to answer. -/
def UpdateWorld.around (d : MemoryDaemon) (faults : List FaultRule) : UpdateWorld MemoryStore where
  daemon := d
  reachable := true
  faults := faults
  cancelOn := []
  cancelled := false
  store := .empty
  storeFaults := .none
  network := fun _ => ⟨.ok 404, .zero⟩
  clock := 0
  calls := []

/-- What update code comes to in the world around a daemon, and the daemon afterwards. -/
def UpdateProgram.runAround {α : Type} (p : UpdateProgram α) (d : MemoryDaemon)
    (faults : List FaultRule) : α × MemoryDaemon :=
  let ended := p.run (UpdateWorld.handle ⟨MemoryStore.handle⟩) (.around d faults)
  (ended.1, ended.2.daemon)

theorem eq_ok_of_toOption {ε α : Type} {x : Except ε α} {a : α} (h : x.toOption = some a) :
    x = .ok a := by
  cases x with
  | error e => cases h
  | ok b => exact congrArg Except.ok (Option.some.inj h)

theorem memoryRun_around {α : Type} (p : UpdateProgram α) (d : MemoryDaemon)
    (faults : List FaultRule) : MemoryRun p d (p.runAround d faults).1 (p.runAround d faults).2 :=
  memoryRun_world ⟨MemoryStore.handle⟩ p (.around d faults)

end ContainerFleet
