import ContainerFleet.Host.Script
import ContainerFleet.Proofs.Host.Operation

/-!
Operations on the connected hosts in worlds that reply by a function, and in scripted ones. Main
statements: `history_play`, that what happens there is a history, and `ownClients_play`, that the
clients of a scripted world belong to the hosts that they were dialed for.
-/

namespace ContainerFleet

open Program (converse runs_converse forall_mem_converse)

namespace Registry

variable {σ : Type} {start r : Registry} {steps : List Step}

/-- Carries out operations in a world that replies by a function: the steps, the registry after them,
and the state of the world. -/
def play (handle : (q : ConnectionRequest) → σ → q.Reply × σ) :
    List Operation → Registry → σ → List Step × Registry × σ
  | [], r, s => ([], r, s)
  | op :: ops, r, s =>
    let (trace, next, t) := converse (I := connectionInterface) handle (op.perform r) s
    let (steps, ended) := play handle ops next t
    (⟨op, trace⟩ :: steps, ended)

/-- What happens in a world that replies by a function goes on a history. -/
theorem History.append_play (handle : (q : ConnectionRequest) → σ → q.Reply × σ) (ops : List Operation)
    (h : History start steps r) (s : σ) :
    History start (steps ++ (play handle ops r s).1) (play handle ops r s).2.1 := by
  induction ops generalizing steps r s with
  | nil => rwa [play, List.append_nil]
  | cons op ops ih =>
      have hstep := runs_converse (I := connectionInterface) handle (op.perform r) s
      have hnext : History start (steps ++ [⟨op, _⟩]) _ := h.snoc hstep
      rw [play, List.append_cons]
      exact ih hnext _

theorem history_play (handle : (q : ConnectionRequest) → σ → q.Reply × σ) (ops : List Operation)
    (start : Registry) (s : σ) :
    History start (play handle ops start s).1 (play handle ops start s).2.1 :=
  History.append_play handle ops .nil s

end Registry

theorem ConnectionWorld.host_of_dial {w : ConnectionWorld} {name : String}
    {session : Option Handle} {client : Handle}
    (h : (w.dial name session).1 = .connected client) : client.host = name := by
  unfold dial at h
  dsimp only at h
  split at h
  · cases h
    rfl
  · cases h
    rfl
  · cases h
  · cases h
  · cases h

/-- The clients of a scripted world belong to the hosts that they were dialed for. -/
theorem ownClients_converse {α : Type} (p : ConnectionProgram α) (w : ConnectionWorld) :
    OwnClients (converse (I := connectionInterface) ConnectionWorld.handle p w).1 := by
  intro name session client hmem
  refine forall_mem_converse (I := connectionInterface)
    (P := fun x => x = dialed name session (.connected client) → client.host = name)
    ConnectionWorld.handle (fun q v hx => ?_) p w _ hmem rfl
  obtain ⟨rfl, hdialed⟩ := Program.Exchange.mk.inj hx
  exact ConnectionWorld.host_of_dial (eq_of_heq hdialed)

theorem Registry.ownClients_play (ops : List Registry.Operation) (r : Registry)
    (w : ConnectionWorld) :
    ∀ step ∈ (Registry.play ConnectionWorld.handle ops r w).1, OwnClients step.trace := by
  induction ops generalizing r w with
  | nil => exact List.forall_mem_nil _
  | cons op ops ih =>
      exact List.forall_mem_cons.2 ⟨ownClients_converse (op.perform r) w, ih _ _⟩

/-- A fleet in which the local host answers the second dialing only, one machine breaks down the first
time, and another one is unknown. -/
def ConnectionScript.unsteady : ConnectionScript where
  dials := [("local", [.failed, .healthy]), ("edge-1", [.healthy]),
    ("edge-2", [.brokenDown, .healthy])]
  sessions := [("edge-3", .unknownMachine)]
  worlds := []
  blank :=
    ⟨MemoryDaemon.empty, true, [], [], false, .memory .empty, .none, fun _ => ⟨.ok 404, .zero⟩, 0, []⟩

namespace Registry

/-- A start that leaves one host, which is deleted when another one is there. -/
def Operation.changeover : List Operation :=
  [.bootstrap [0, 1, 2, 1] ["edge-1", "edge-2", "edge-3"], .connect "edge-2", .delete "edge-1"]

/-- The unsteady fleet after its changeover. -/
def changedOver : List Step × Registry × ConnectionWorld :=
  play ConnectionWorld.handle Operation.changeover (empty "local") (.start .unsteady)

theorem history_changedOver : History (empty "local") changedOver.1 changedOver.2.1 :=
  history_play ConnectionWorld.handle Operation.changeover (empty "local") _

end Registry

end ContainerFleet
