import ContainerFleet.Proofs.Docker.Creation
import ContainerFleet.Update.Run

/-!
The request by which a container is stopped, against the time that it is to be given. Main statement:
`granted_iff_of_runs`. The time is sent as whole seconds, in a signed number of 64 bits.
-/

namespace ContainerFleet

open ContainerFleet.Text
open Program (Runs runs_bind_iff runs_call_iff runs_pure_iff)

namespace Docker

variable {id : String} {timeout : Duration}

/-- So many seconds are no shorter than a span. -/
def Grants (seconds : Int) (timeout : Duration) : Prop :=
  0 ≤ seconds ∧ (timeout.inNanos : Int) ≤ seconds * 1000000000

instance decidableGrants (seconds : Int) (timeout : Duration) : Decidable (Grants seconds timeout) :=
  inferInstanceAs (Decidable (_ ∧ _))

/-- The request to stop a container, which is given so many seconds. -/
def stopRequest (id : String) (seconds : Int) : ApiRequest where
  method := "POST"
  path := String.ofList (Url.path (("/containers/" ++ id ++ "/stop").toList.takeWhile fun c =>
    c != '?' && c != '#'))
  query := [("t", toString seconds)]
  body := none

theorem stopSeconds_eq (timeout : Duration) :
    stopSeconds timeout =
      if timeout.secs < 9223372036854775808 then (timeout.secs : Int)
      else timeout.secs - 18446744073709551616 := by
  have hsecs := timeout.secs_lt
  unfold stopSeconds
  split
  · exact Int.bmod_eq_of_le_mul_two (by omega) (by omega)
  · rw [← Int.sub_bmod_right]
    exact Int.bmod_eq_of_le_mul_two (by omega) (by omega)

/-- A part of a second is cut off, and from 2^63 seconds on the number is negative. -/
theorem grants_stopSeconds_iff :
    Grants (stopSeconds timeout) timeout ↔
      timeout.nanos = 0 ∧ timeout.secs < 9223372036854775808 := by
  have hsecs := timeout.secs_lt
  rw [Grants, stopSeconds_eq, Duration.inNanos]
  split <;> omega

theorem stopQuery_eq (timeout : Duration) :
    stopQuery timeout = [("t", toString (stopSeconds timeout))] := by
  have hdigits (n : Nat) : String.ofList (Decimal.write n) = n.repr :=
    Nat.repr_eq_ofList_toDigits.symm
  simp only [stopQuery, hdigits, Int.toString_eq_repr, Int.repr_eq_if]
  by_cases hneg : stopSeconds timeout < 0
  · have habs : (stopSeconds timeout).natAbs = (-stopSeconds timeout).toNat := by omega
    rw [if_pos hneg, if_neg (Int.not_le.2 hneg), habs]
  · have habs : (stopSeconds timeout).natAbs = (stopSeconds timeout).toNat := by omega
    rw [if_neg hneg, if_pos (Int.not_lt.1 hneg), habs]

theorem eq_of_runs_stop {sent : List ApiExchange} {reply : (DaemonCall.stop id timeout).Reply}
    (h : Runs (perform (.stop id timeout)) sent reply) :
    sent.map Program.Exchange.request = [stopRequest id (stopSeconds timeout)] := by
  obtain ⟨t, u, response, rfl, hsent, hend⟩ := runs_bind_iff.1 h
  obtain ⟨rfl, -⟩ := runs_pure_iff.1 hend
  rw [runs_call_iff.1 hsent, stopRequest, ← stopQuery_eq]
  rfl

end Docker

namespace Replacement

/-- The container that a call stops, and the time that it is given. -/
def stop? : DaemonCall → Option (String × Duration)
  | .stop id timeout => some (id, timeout)
  | _ => none

/-- The containers that are stopped in a conversation, or were to be. -/
def stops (calls : List DaemonCall) : List (String × Duration) :=
  calls.filterMap stop?

@[simp]
theorem stops_nil : stops [] = [] :=
  rfl

@[simp]
theorem stops_cons (call : DaemonCall) (calls : List DaemonCall) :
    stops (call :: calls) = (stop? call).toList ++ stops calls := by
  rw [stops, List.filterMap_cons]
  cases stop? call <;> rfl

@[simp]
theorem stops_append (calls more : List DaemonCall) :
    stops (calls ++ more) = stops calls ++ stops more :=
  List.filterMap_append

variable {stopTimeout timeout : Duration} {key image id : String} {old : ContainerDetails}
  {trace : List UpdateExchange} {result : Except ReplaceError Replaced}

theorem Checked.stops_eq_nil {newId : String} {verdict : Except HealthError Unit}
    (h : Checked old newId trace verdict) : stops (daemonCalls trace) = [] := by
  rcases h.calls with hcalls | hcalls <;> rw [hcalls] <;> rfl

/-- The old container is stopped if it ran, once, and no other one is. -/
theorem Course.stops_eq (h : Course stopTimeout image old trace result) :
    stops (daemonCalls trace) = if old.running then [(old.id, stopTimeout)] else [] := by
  cases h with
  | notRemoved hstopped e => simp [stop?, hstopped]
  | notRecreated hstopped e => simp [stop?, hstopped]
  | recreated hstopped newId => simp [stop?, hstopped]
  | notStopped hrunning e => simp [stop?, hrunning]
  | notCreated hrunning e hlast => simp [stop?, hrunning, hlast.daemonCalls_eq]
  | notStarted hrunning newId e removed hlast => simp [stop?, hrunning, hlast.daemonCalls_eq]
  | unhealthy hrunning newId hcheck removed hlast =>
      simp [stop?, hrunning, daemonCalls_append, hcheck.stops_eq_nil, hlast.daemonCalls_eq]
  | oldNotRemoved hrunning newId hcheck e =>
      simp [stop?, hrunning, daemonCalls_append, hcheck.stops_eq_nil]
  | notRenamed hrunning newId hcheck e =>
      simp [stop?, hrunning, daemonCalls_append, hcheck.stops_eq_nil]
  | tookOver hrunning newId hcheck =>
      simp [stop?, hrunning, daemonCalls_append, hcheck.stops_eq_nil]

theorem eq_of_stop_mem (h : Runs (replace stopTimeout key image) trace result)
    (hstop : DaemonCall.stop id timeout ∈ daemonCalls trace) : timeout = stopTimeout := by
  have hmem : (id, timeout) ∈ stops (daemonCalls trace) := List.mem_filterMap.2 ⟨_, hstop, rfl⟩
  cases protocol_of_runs h with
  | notInspected e => cases hmem
  | inspected old hcourse =>
      rw [daemonCalls_said_cons, stops_cons, hcourse.stops_eq] at hmem
      split at hmem
      · cases List.mem_singleton.1 hmem
        rfl
      · cases hmem

/-- A web server is stopped with any timeout, and then its replacement is not created. -/
theorem exists_runs_stop (timeout : Duration) :
    ∃ (trace : List UpdateExchange) (result : Except ReplaceError Replaced) (sent : List ApiExchange),
      Runs (replace timeout "web" "app:2") trace result ∧
      DaemonCall.stop "c1" timeout ∈ daemonCalls trace ∧
      Runs (Docker.perform (.stop "c1" timeout)) sent (.ok ()) := by
  have hcourse : Course timeout "app:2" ((MemoryDaemon.web []).details (0 : Int)) _ _ :=
    .notCreated rfl (.unexpected "full") .again
  have hruns : Runs (replace timeout "web" "app:2") _ _ := hcourse.runs
  have hsent : Runs (Docker.perform (.stop "c1" timeout)) _ (.ok ()) :=
    runs_bind_iff.2 ⟨_, [], some ⟨204, []⟩, rfl, runs_call_iff.2 rfl, .done _⟩
  exact ⟨_, _, _, hruns, List.mem_cons_of_mem _ List.mem_cons_self, hsent⟩

/-- The timeout of a configuration goes into one request when a container is replaced. The seconds there
are no shorter exactly when it is a whole number of them, and one that 63 bits hold. -/
theorem granted_iff_of_runs {c : UpdaterConfig} {sent : List ApiExchange}
    {reply : (DaemonCall.stop id timeout).Reply}
    (h : Runs (replace (Updater.ofConfig c).stopTimeout key image) trace result)
    (hstop : DaemonCall.stop id timeout ∈ daemonCalls trace)
    (hsent : Runs (Docker.perform (.stop id timeout)) sent reply) :
    ∃ seconds, sent.map Program.Exchange.request = [Docker.stopRequest id seconds] ∧
      (Docker.Grants seconds c.stopTimeout ↔
        c.stopTimeout.nanos = 0 ∧ c.stopTimeout.secs < 9223372036854775808) := by
  obtain rfl : timeout = c.stopTimeout := eq_of_stop_mem h hstop
  exact ⟨_, Docker.eq_of_runs_stop hsent, Docker.grants_stopSeconds_iff⟩

/-- The timeout of a configuration that says nothing of it. -/
theorem granted_default :
    ∃ (trace : List UpdateExchange) (result : Except ReplaceError Replaced) (sent : List ApiExchange)
      (seconds : Int),
      Runs (replace (Updater.ofConfig .default).stopTimeout "web" "app:2") trace result ∧
      Runs (Docker.perform (.stop "c1" UpdaterConfig.default.stopTimeout)) sent (.ok ()) ∧
      sent.map Program.Exchange.request = [Docker.stopRequest "c1" seconds] ∧
      Docker.Grants seconds UpdaterConfig.default.stopTimeout := by
  obtain ⟨trace, result, sent, hruns, hstop, hsent⟩ :=
    exists_runs_stop UpdaterConfig.default.stopTimeout
  obtain ⟨seconds, hrequest, hgrants⟩ :=
    granted_iff_of_runs (c := .default) hruns hstop hsent
  exact ⟨trace, result, sent, seconds, hruns, hsent, hrequest, hgrants.2 (by decide)⟩

/-- With this timeout in the configuration a container is stopped by this request. -/
def StopsBy (text : String) (c : UpdaterConfig) (q : Docker.ApiRequest) : Prop :=
  UpdaterConfig.ofJson? Json.strict (.obj [("stop_timeout", .str text)]) = some c ∧
    ∃ (trace : List UpdateExchange) (result : Except ReplaceError Replaced) (sent : List ApiExchange),
      Runs (replace (Updater.ofConfig c).stopTimeout "web" "app:2") trace result ∧
      DaemonCall.stop "c1" c.stopTimeout ∈ daemonCalls trace ∧
      Runs (Docker.perform (.stop "c1" c.stopTimeout)) sent (.ok ()) ∧
      sent.map Program.Exchange.request = [q]

theorem stopsBy_of_ofJson? {text : String} {c : UpdaterConfig}
    (h : UpdaterConfig.ofJson? Json.strict (.obj [("stop_timeout", .str text)]) = some c) :
    StopsBy text c (Docker.stopRequest "c1" (Docker.stopSeconds c.stopTimeout)) := by
  obtain ⟨trace, result, sent, hruns, hstop, hsent⟩ := exists_runs_stop c.stopTimeout
  exact ⟨h, trace, result, sent, hruns, hstop, hsent, Docker.eq_of_runs_stop hsent⟩

/-- Half a second becomes none, which kills at once, and the longest span a number below zero. -/
theorem exists_not_granted :
    (∃ c q, StopsBy "500ms" c q ∧ q.query = [("t", "0")] ∧ ¬ Docker.Grants 0 c.stopTimeout) ∧
    ∃ c q, StopsBy "18446744073709551615s" c q ∧ q.query = [("t", "-1")] ∧
      ¬ Docker.Grants (-1) c.stopTimeout := by
  let half : Duration := ⟨0, 500000000, by decide, by decide⟩
  let longest : Duration := ⟨18446744073709551615, 0, by decide, by decide⟩
  have hhalf : UpdaterConfig.ofJson? Json.strict (.obj [("stop_timeout", .str "500ms")]) =
      some { UpdaterConfig.default with stopTimeout := half } := by decide +kernel
  have hlongest :
      UpdaterConfig.ofJson? Json.strict (.obj [("stop_timeout", .str "18446744073709551615s")]) =
      some { UpdaterConfig.default with stopTimeout := longest } := by decide +kernel
  exact ⟨⟨_, _, stopsBy_of_ofJson? hhalf, by decide +kernel, by decide +kernel⟩,
    ⟨_, _, stopsBy_of_ofJson? hlongest, by decide +kernel, by decide +kernel⟩⟩

end Replacement

end ContainerFleet
