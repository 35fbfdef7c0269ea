import ContainerFleet.Proofs.Daemon.Conduct
import ContainerFleet.Proofs.Program.Conversation

/-!
A daemon in memory that carries out every call that reaches it. Main statement:
`converses_served`, by which what update code says to it, and what comes of that, can be computed.
-/

namespace ContainerFleet

namespace MemoryDaemon

/-- What may happen to a daemon that carries out every call, while update code asks for something.
A pull may still be abandoned because the run was cancelled. -/
def service : Conduct updateInterface MemoryDaemon := fun (q : UpdateRequest) d (r : q.Reply) t =>
  match q, r with
  | .daemon call, r => ∃ now, d.perform now call = (r, t)
  | .pull _, none => t = d
  | .pull image, some r => ∃ now, d.perform now (.pull image) = (r, t)
  | .store _, _ => t = d
  | .get _ _, _ => t = d
  | .now, _ => t = d
  | .sleepUntil _, _ => t = d
  | .isCancelled, _ => t = d

/-- What a daemon that carries out every call may do, any daemon in memory may do. -/
theorem conduct_of_service (q : UpdateRequest) (d : MemoryDaemon) (r : q.Reply) (t : MemoryDaemon)
    (h : service q d r t) : conduct q d r t := by
  cases q with
  | daemon call => exact .inl h
  | pull image =>
      cases r with
      | none => exact h
      | some reply => exact .inl h
  | store call => exact h
  | get url timeout => exact h
  | now => exact h
  | sleepUntil moment => exact h
  | isCancelled => exact h

theorem runsIn_service_daemon_iff {call : DaemonCall} {reply : call.Reply} {d t : MemoryDaemon} :
    Program.RunsIn service (UpdateProgram.daemon call) d reply t ↔
      ∃ now, d.perform now call = (reply, t) :=
  Program.runsIn_call_iff

/-- A daemon that carries out every call at one moment, in a world where the store takes everything
in, no address has anything to answer, and no run is cancelled. -/
def serve (q : UpdateRequest) (d : MemoryDaemon) : q.Reply × MemoryDaemon :=
  match q with
  | .daemon call => d.perform 0 call
  | .pull image =>
    let (reply, t) := d.perform 0 (.pull image)
    (some reply, t)
  | .store call => ((MemoryStore.empty.handle call).1, d)
  | .get _ _ => (⟨.ok 404, .zero⟩, d)
  | .now => ((0 : Int), d)
  | .sleepUntil _ => ((), d)
  | .isCancelled => (false, d)

theorem service_serve (q : UpdateRequest) (d : MemoryDaemon) :
    service q d (serve q d).1 (serve q d).2 := by
  cases q with
  | daemon call => exact ⟨0, rfl⟩
  | pull image => exact ⟨0, rfl⟩
  | store call => rfl
  | get url timeout => rfl
  | now => rfl
  | sleepUntil moment => rfl
  | isCancelled => rfl

end MemoryDaemon

/-- What update code says to a daemon that carries out every call, what it comes to, and the daemon
afterwards. -/
def UpdateProgram.served {α : Type} (p : UpdateProgram α) (d : MemoryDaemon) :
    List UpdateExchange × α × MemoryDaemon :=
  p.converse MemoryDaemon.serve d

theorem converses_served {α : Type} (p : UpdateProgram α) (d : MemoryDaemon) :
    Program.Converses MemoryDaemon.service p d (p.served d).1 (p.served d).2.1
      (p.served d).2.2 :=
  Program.converses_converse (I := updateInterface) _ MemoryDaemon.service_serve p d

end ContainerFleet
