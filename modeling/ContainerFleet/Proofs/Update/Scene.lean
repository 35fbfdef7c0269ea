import ContainerFleet.Proofs.Daemon.Service
import ContainerFleet.Proofs.Store.Effect
import ContainerFleet.Update.World

/-!
Worlds in which the same call always fails or never: a daemon in memory, a store, a network and a
clock around an update run that nobody cancels. Main statements: `run_bind`, that parts of a program
meet such a world one after the other, and `converses_daemon`, `converses_service` and
`converses_store`, by which what is said there is said to a daemon and a store in memory.
-/

namespace ContainerFleet

/-- What is around update runs and stays as it is: the calls to the daemon that fail, what the store
does with a call, and what addresses answer. -/
structure Surroundings (σ : Type) where
  fails : DaemonCall → Option DaemonError
  backend : StoreBackend σ
  network : String → HttpReply

/-- What update runs can change. -/
structure Scene (σ : Type) where
  daemon : MemoryDaemon
  store : σ
  clock : Moment

namespace Surroundings

variable {σ α β : Type}

/-- Carries out one call to the daemon, unless it fails. -/
def perform (k : Surroundings σ) (call : DaemonCall) (s : Scene σ) : call.Reply × Scene σ :=
  match k.fails call with
  | some e => (.error e, s)
  | none =>
    let (reply, daemon) := s.daemon.perform s.clock call
    (reply, { s with daemon := daemon })

/-- Carries out one request of an update run. -/
def handle (k : Surroundings σ) (q : UpdateRequest) (s : Scene σ) : q.Reply × Scene σ :=
  match q with
  | .daemon call => k.perform call s
  | .pull image =>
    let (reply, s) := k.perform (.pull image) s
    (some reply, s)
  | .store call =>
    let (reply, store) := k.backend.handle call s.store
    (reply, { s with store := store })
  | .get url _ => (k.network url, s)
  | .now => (s.clock, s)
  | .sleepUntil moment => ((), { s with clock := max s.clock (UpdateWorld.nextTick moment) })
  | .isCancelled => (false, s)

/-- What update code comes to, and the scene afterwards. -/
def run (k : Surroundings σ) (p : UpdateProgram α) (s : Scene σ) : α × Scene σ :=
  Program.run (I := updateInterface) k.handle p s

/-- What update code says, what it comes to, and the scene afterwards. -/
def converse (k : Surroundings σ) (p : UpdateProgram α) (s : Scene σ) :
    List UpdateExchange × α × Scene σ :=
  Program.converse (I := updateInterface) k.handle p s

variable {k : Surroundings σ}

theorem run_pure (a : α) (s : Scene σ) : k.run (pure a) s = (a, s) :=
  rfl

theorem run_bind (p : UpdateProgram α) (f : α → UpdateProgram β) (s : Scene σ) :
    k.run (p >>= f) s = k.run (f (k.run p s).1) (k.run p s).2 :=
  Program.run_bind (I := updateInterface) k.handle p f s

theorem run_isCancelled (s : Scene σ) : k.run UpdateProgram.isCancelled s = (false, s) :=
  rfl

theorem run_eq_converse (p : UpdateProgram α) (s : Scene σ) : k.run p s = (k.converse p s).2 :=
  Program.run_eq_converse (I := updateInterface) k.handle p s

theorem perform_answers (call : DaemonCall) (s : Scene σ) :
    s.daemon.Answers call (k.perform call s).1 (k.perform call s).2.daemon := by
  unfold perform
  split
  · next e _ => exact .inr ⟨⟨e, rfl⟩, rfl⟩
  · exact .inl ⟨s.clock, rfl⟩

/-- The daemon of such a world is one in memory. -/
theorem conduct_daemon (q : UpdateRequest) (s : Scene σ) :
    MemoryDaemon.conduct q s.daemon (k.handle q s).1 (k.handle q s).2.daemon := by
  cases q with
  | daemon call => exact perform_answers call s
  | pull image => exact perform_answers (.pull image) s
  | _ => rfl

theorem perform_of_not_fails {call : DaemonCall} (h : k.fails call = none) (s : Scene σ) :
    s.daemon.perform s.clock call = ((k.perform call s).1, (k.perform call s).2.daemon) := by
  simp only [perform, h]

/-- Where no call fails, the daemon of such a world carries out every call. -/
theorem service_daemon (hfails : ∀ call, k.fails call = none) (q : UpdateRequest) (s : Scene σ) :
    MemoryDaemon.service q s.daemon (k.handle q s).1 (k.handle q s).2.daemon := by
  cases q with
  | daemon call => exact ⟨s.clock, perform_of_not_fails (hfails call) s⟩
  | pull image => exact ⟨s.clock, perform_of_not_fails (hfails (.pull image)) s⟩
  | _ => rfl

/-- Surroundings with a store in memory, in which no address has anything to answer. -/
def plain (fails : DaemonCall → Option DaemonError) : Surroundings MemoryStore :=
  ⟨fails, ⟨MemoryStore.handle⟩, fun _ => ⟨.ok 404, .zero⟩⟩

theorem conduct_store {fails : DaemonCall → Option DaemonError} (q : UpdateRequest)
    (s : Scene MemoryStore) :
    MemoryStore.conduct q s.store ((plain fails).handle q s).1
      ((plain fails).handle q s).2.store := by
  have hperform : ∀ call, ((plain fails).perform call s).2.store = s.store := by
    intro call
    unfold perform
    split <;> rfl
  cases q with
  | daemon call => exact hperform call
  | pull image => exact hperform (.pull image)
  | _ => rfl

theorem converses_daemon (p : UpdateProgram α) (s : Scene σ) :
    Program.Converses MemoryDaemon.conduct p s.daemon (k.converse p s).1 (k.converse p s).2.1
      (k.converse p s).2.2.daemon :=
  Program.converses_view (I := updateInterface) k.handle Scene.daemon conduct_daemon p s

theorem converses_service (hfails : ∀ call, k.fails call = none) (p : UpdateProgram α)
    (s : Scene σ) :
    Program.Converses MemoryDaemon.service p s.daemon (k.converse p s).1 (k.converse p s).2.1
      (k.converse p s).2.2.daemon :=
  Program.converses_view (I := updateInterface) k.handle Scene.daemon (service_daemon hfails) p s

theorem converses_store (fails : DaemonCall → Option DaemonError) (p : UpdateProgram α)
    (s : Scene MemoryStore) :
    Program.Converses MemoryStore.conduct p s.store ((plain fails).converse p s).1
      ((plain fails).converse p s).2.1 ((plain fails).converse p s).2.2.store :=
  Program.converses_view (I := updateInterface) (plain fails).handle Scene.store conduct_store p s

end Surroundings

end ContainerFleet
