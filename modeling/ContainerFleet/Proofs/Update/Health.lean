import ContainerFleet.Proofs.Daemon.Conduct
import ContainerFleet.Proofs.Program.Conversation
import ContainerFleet.Update.Health

/-!
What a health check asks, what it does to the daemon, which is nothing, and what it knows when it
passes: a container that has to stay up was seen running.
-/

namespace ContainerFleet

/-- What a health check may ask: how its container is, an address for a short time, and the clock. -/
def UpdateRequest.ChecksHealth : UpdateRequest → Prop
  | .daemon (.inspect _) => True
  | .get _ timeout => timeout = Health.pingTimeout
  | .now => True
  | .sleepUntil _ => True
  | _ => False

/-- Update code that asks nothing else. -/
abbrev OnlyChecksHealth {α : Type} (p : UpdateProgram α) : Prop :=
  Program.AsksOnly (I := updateInterface) UpdateRequest.ChecksHealth p

namespace Health

open Program MemoryDaemon

theorem asksOnly_inspect (id : String) : OnlyChecksHealth (UpdateProgram.inspect id) :=
  asksOnly_call trivial

theorem asksOnly_get (url : String) : OnlyChecksHealth (UpdateProgram.get url pingTimeout) :=
  asksOnly_call rfl

theorem asksOnly_now : OnlyChecksHealth UpdateProgram.now :=
  asksOnly_call trivial

theorem asksOnly_sleepUntil (moment : Moment) :
    OnlyChecksHealth (UpdateProgram.sleepUntil moment) :=
  asksOnly_call trivial

namespace Check

theorem asksOnly_uptime (id : String) (required : Duration) (due : Moment) :
    OnlyChecksHealth (uptime id required due).ask :=
  (asksOnly_inspect id).bind fun _ => asksOnly_now.bind fun _ => asksOnly_pure _

theorem asksOnly_ping (url : String) (due : Moment) : OnlyChecksHealth (ping url due).ask :=
  (asksOnly_get url).bind fun _ => asksOnly_pure _

theorem asksOnly_perform {c : Check} (h : OnlyChecksHealth c.ask) : OnlyChecksHealth c.perform :=
  (asksOnly_sleepUntil c.due).bind fun _ => h.bind fun _ => asksOnly_pure _

theorem asksOnly_run {c : Check} (h : OnlyChecksHealth c.ask) : OnlyChecksHealth c.run :=
  (asksOnly_perform h).bind fun _ => (asksOnly_sleepUntil _).bind fun _ => asksOnly_pure _

theorem asksOnly_runBoth {a b : Check} (ha : OnlyChecksHealth a.ask)
    (hb : OnlyChecksHealth b.ask) : OnlyChecksHealth (a.runBoth b) := by
  unfold runBoth
  split
  · exact (asksOnly_perform ha).bind fun _ => (asksOnly_perform hb).bind fun _ =>
      (asksOnly_sleepUntil _).bind fun _ => asksOnly_pure _
  · exact (asksOnly_perform hb).bind fun _ => (asksOnly_perform ha).bind fun _ =>
      (asksOnly_sleepUntil _).bind fun _ => asksOnly_pure _

end Check

theorem asksOnly_check (id : String) (labels : LabelSet) : OnlyChecksHealth (check id labels) := by
  apply asksOnly_now.bind
  intro start
  dsimp only
  split
  · split
    · exact asksOnly_pure _
    · next hping =>
        obtain ⟨⟨url, delay⟩, -, rfl⟩ := Option.map_eq_some_iff.1 hping
        exact (Check.asksOnly_run (Check.asksOnly_ping _ _)).bind fun _ => asksOnly_pure _
  · split
    · exact (Check.asksOnly_run (Check.asksOnly_uptime _ _ _)).bind fun _ => asksOnly_pure _
    · next hping =>
        obtain ⟨⟨url, delay⟩, -, rfl⟩ := Option.map_eq_some_iff.1 hping
        exact (Check.asksOnly_runBoth (Check.asksOnly_uptime _ _ _)
          (Check.asksOnly_ping _ _)).bind fun _ => asksOnly_pure _
    · exact asksOnly_pure _
    · next hping =>
        obtain ⟨⟨url, delay⟩, -, rfl⟩ := Option.map_eq_some_iff.1 hping
        exact (Check.asksOnly_run (Check.asksOnly_ping _ _)).bind fun _ => asksOnly_pure _

/-- None of what a check asks changes a daemon. -/
theorem still_of_onlyChecksHealth {α : Type} {p : UpdateProgram α} (hp : OnlyChecksHealth p) :
    Still conduct p := by
  apply hp.still
  intro q hq s r t h
  cases q with
  | daemon call =>
      cases call with
      | inspect id => exact still_inspect id s r t (runsIn_call_iff.2 h)
      | _ => cases hq
  | pull image => cases hq
  | _ => exact h

theorem still_check (id : String) (labels : LabelSet) : Still conduct (check id labels) :=
  still_of_onlyChecksHealth (asksOnly_check id labels)

variable {d t : MemoryDaemon} {id : String} {required : Duration} {due : Moment}

theorem running_of_judgeUptime {old : ContainerDetails} {now : Moment}
    (h : judgeUptime required (.ok old) now = .ok ()) : old.running = true := by
  unfold judgeUptime at h
  by_cases hrunning : old.running
  · exact hrunning
  · simp [hrunning] at h

namespace Check

theorem running_of_ask {took : Duration}
    (h : MemoryRun (uptime id required due).ask d (.ok (), took) t) :
    ∃ c, d.find? id = some c ∧ c.running = true := by
  obtain ⟨details, d₁, hinspect, h⟩ := runsIn_bind_iff.1 h
  obtain ⟨now, d₂, -, h⟩ := runsIn_bind_iff.1 h
  obtain ⟨hverdict, -⟩ := runsIn_pure_iff.1 h
  rw [Prod.mk.injEq] at hverdict
  replace hinspect := memoryRun_daemon_iff.1 hinspect
  cases details with
  | error e => cases hverdict.1
  | ok old =>
      obtain ⟨-, c, seen, hfind, rfl⟩ := hinspect.of_inspect
      exact ⟨c, hfind, running_of_judgeUptime hverdict.1.symm⟩

theorem running_of_perform {finish : Moment}
    (h : MemoryRun (uptime id required due).perform d (.ok (), finish) t) :
    ∃ c, d.find? id = some c ∧ c.running = true := by
  obtain ⟨_, d₁, hsleep, h⟩ := runsIn_bind_iff.1 h
  obtain ⟨⟨verdict, took⟩, d₂, hask, h⟩ := runsIn_bind_iff.1 h
  obtain ⟨hverdict, -⟩ := runsIn_pure_iff.1 h
  rw [Prod.mk.injEq] at hverdict
  rw [(still_sleepUntil _).eq hsleep, ← hverdict.1] at hask
  exact running_of_ask hask

theorem running_of_run (h : MemoryRun (uptime id required due).run d (.ok ()) t) :
    ∃ c, d.find? id = some c ∧ c.running = true := by
  obtain ⟨⟨verdict, finish⟩, d₁, hperform, h⟩ := runsIn_bind_iff.1 h
  obtain ⟨_, d₂, -, h⟩ := runsIn_bind_iff.1 h
  obtain ⟨rfl, -⟩ := runsIn_pure_iff.1 h
  exact running_of_perform hperform

theorem running_of_runBoth {b : Check} {y : Verdict} (hb : Still conduct b.perform)
    (h : MemoryRun ((uptime id required due).runBoth b) d (.ok (), y) t) :
    ∃ c, d.find? id = some c ∧ c.running = true := by
  unfold runBoth at h
  split at h
  · obtain ⟨⟨x, xFinish⟩, d₁, hx, h⟩ := runsIn_bind_iff.1 h
    obtain ⟨⟨y', yFinish⟩, d₂, -, h⟩ := runsIn_bind_iff.1 h
    obtain ⟨_, d₃, -, h⟩ := runsIn_bind_iff.1 h
    obtain ⟨heq, -⟩ := runsIn_pure_iff.1 h
    rw [Prod.mk.injEq] at heq
    exact running_of_perform (heq.1 ▸ hx)
  · obtain ⟨⟨y', yFinish⟩, d₁, hy, h⟩ := runsIn_bind_iff.1 h
    obtain ⟨⟨x, xFinish⟩, d₂, hx, h⟩ := runsIn_bind_iff.1 h
    obtain ⟨_, d₃, -, h⟩ := runsIn_bind_iff.1 h
    obtain ⟨heq, -⟩ := runsIn_pure_iff.1 h
    rw [Prod.mk.injEq] at heq
    rw [hb.eq hy] at hx
    exact running_of_perform (heq.1 ▸ hx)

end Check

theorem combine_eq_ok_iff {x y : Verdict} : combine x y = .ok () ↔ x = .ok () ∧ y = .ok () := by
  rcases x with u | ⟨⟩ <;> rcases y with p | ⟨⟩ <;> simp [combine]

/-- A check that asks for some uptime passes only when it saw the container running. -/
theorem running_of_check {labels : LabelSet} (hrequired : labels.requiredUptime? = some required)
    (h : MemoryRun (check id labels) d (.ok ()) t) :
    ∃ c, d.find? id = some c ∧ c.running = true := by
  obtain ⟨start, d₁, hnow, h⟩ := runsIn_bind_iff.1 h
  rw [still_now.eq hnow] at h
  simp only [hrequired] at h
  split at h
  · obtain ⟨verdict, d₂, hrun, h⟩ := runsIn_bind_iff.1 h
    have hpassed := combine_eq_ok_iff.1 (runsIn_pure_iff.1 h).1.symm
    exact Check.running_of_run (hpassed.1 ▸ hrun)
  · next hping =>
      obtain ⟨⟨url, delay⟩, -, rfl⟩ := Option.map_eq_some_iff.1 hping
      obtain ⟨⟨x, y⟩, d₂, hrun, h⟩ := runsIn_bind_iff.1 h
      have hpassed : x = .ok () ∧ y = .ok () :=
        combine_eq_ok_iff.1 (runsIn_pure_iff.1 h).1.symm
      have hstill := still_of_onlyChecksHealth
        (Check.asksOnly_perform (Check.asksOnly_ping url (start.after delay)))
      exact Check.running_of_runBoth hstill (hpassed.1 ▸ hrun)
  · cases (runsIn_pure_iff.1 h).1
  · obtain ⟨_, d₂, -, h⟩ := runsIn_bind_iff.1 h
    cases (runsIn_pure_iff.1 h).1

section Calls

open UpdateProgram

theorem Check.calls_perform {c : Check} {calls : List DaemonCall} (h : Calls c.ask calls) :
    Calls c.perform calls := by
  rw [← List.append_nil calls]
  exact (calls_sleepUntil c.due).bind fun _ => h.bind fun _ => calls_pure _

theorem Check.calls_run {c : Check} {calls : List DaemonCall} (h : Calls c.ask calls) :
    Calls c.run calls := by
  rw [← List.append_nil calls]
  exact (Check.calls_perform h).bind fun _ => (calls_sleepUntil _).bind fun _ => calls_pure _

theorem Check.calls_uptime (id : String) (required : Duration) (due : Moment) :
    Calls (uptime id required due).ask [.inspect id] :=
  (calls_daemon (.inspect id)).bind fun _ => calls_now.bind fun _ => calls_pure _

theorem Check.calls_ping (url : String) (due : Moment) : Calls (ping url due).ask [] :=
  (calls_get url pingTimeout).bind fun _ => calls_pure _

theorem Check.calls_runBoth {a b : Check} {calls : List DaemonCall} (ha : Calls a.ask calls)
    (hb : Calls b.ask []) : Calls (a.runBoth b) calls := by
  unfold runBoth
  split
  · rw [← List.append_nil calls]
    exact (calls_perform ha).bind fun _ => (calls_perform hb).bind fun _ =>
      (calls_sleepUntil _).bind fun _ => calls_pure _
  · rw [← List.append_nil calls]
    exact (calls_perform hb).bind fun _ => (calls_perform ha).bind fun _ =>
      (calls_sleepUntil _).bind fun _ => calls_pure _

/-- The only call that a check makes to the daemon is one inspection of its container. -/
theorem daemonCalls_check {labels : LabelSet} {trace : List UpdateExchange}
    {verdict : Except HealthError Unit} (h : Runs (check id labels) trace verdict) :
    daemonCalls trace = [] ∨ daemonCalls trace = [.inspect id] := by
  obtain ⟨t, u, start, rfl, hnow, h⟩ := runs_bind_iff.1 h
  rw [daemonCalls_append, calls_now t start hnow, List.nil_append]
  dsimp only at h
  split at h
  · split at h
    · exact .inl (calls_pure _ _ _ h)
    · next hping =>
        obtain ⟨⟨url, delay⟩, -, rfl⟩ := Option.map_eq_some_iff.1 hping
        exact .inl (((Check.calls_run (Check.calls_ping _ _)).bind fun _ => calls_pure _) _ _ h)
  · split at h
    · exact .inr (((Check.calls_run (Check.calls_uptime _ _ _)).bind fun _ => calls_pure _) _ _ h)
    · next hping =>
        obtain ⟨⟨url, delay⟩, -, rfl⟩ := Option.map_eq_some_iff.1 hping
        exact .inr (((Check.calls_runBoth (Check.calls_uptime _ _ _) (Check.calls_ping _ _)).bind
          fun _ => calls_pure _) _ _ h)
    · exact .inl (calls_pure _ _ _ h)
    · next hping =>
        obtain ⟨⟨url, delay⟩, -, rfl⟩ := Option.map_eq_some_iff.1 hping
        exact .inl (((Check.calls_run (Check.calls_ping _ _)).bind fun _ => calls_pure _) _ _ h)

end Calls

end Health

end ContainerFleet
