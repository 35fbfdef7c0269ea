import ContainerFleet.Proofs.Daemon.Identity
import ContainerFleet.Proofs.Rounding
import ContainerFleet.Proofs.Update.Health

/-!
When a health check asks what, and what it says then. Main statement: `check_names_what_failed`. Both
parts of a check are waited for, whichever ends first, and its result names the ones that failed.
-/

namespace ContainerFleet

open Program

/-! ### Time -/

/-- A world in which time never goes back, and in which nobody is woken too early. -/
def keepsTime : Conduct updateInterface Moment :=
  fun (q : UpdateRequest) s (r : q.Reply) t =>
    match q, r with
    | .now, r => r = s ∧ t = s
    | .sleepUntil moment, _ => max s moment ≤ t
    | _, _ => s ≤ t

/-- A world in which time passes only in sleep, and in which nobody is woken too late. -/
def punctual : Conduct updateInterface Moment :=
  fun (q : UpdateRequest) s (r : q.Reply) t =>
    match q, r with
    | .now, r => r = s ∧ t = s
    | .sleepUntil moment, _ => t = max s moment
    | _, _ => t = s

/-- The end of a sleep until some moment. -/
def slept (moment : Moment) : UpdateExchange :=
  ⟨UpdateRequest.sleepUntil moment, ()⟩

/-- A look at the clock. -/
def read (now : Moment) : UpdateExchange :=
  ⟨UpdateRequest.now, now⟩

/-- What comes back from an address. -/
def fetched (url : String) (timeout : Duration) (reply : HttpReply) : UpdateExchange :=
  ⟨UpdateRequest.get url timeout, reply⟩

theorem keepsTime_of_punctual (q : UpdateRequest) (s : Moment) (r : q.Reply) (t : Moment)
    (h : punctual q s r t) : keepsTime q s r t := by
  cases q with
  | now => exact h
  | sleepUntil moment => exact le_of_eq h.symm
  | _ => exact le_of_eq h.symm

theorem le_of_keepsTime {q : UpdateRequest} {s t : Moment} {r : q.Reply} (h : keepsTime q s r t) :
    s ≤ t := by
  cases q with
  | now => exact le_of_eq h.2.symm
  | sleepUntil moment => exact (le_max_left s moment).trans h
  | _ => exact h

/-- The clock shows no time before what was slept for. -/
theorem le_of_leads_read {start due now stop : Moment} {before after : List UpdateExchange}
    {x : UpdateExchange}
    (h : Leads keepsTime start (before ++ slept due :: x :: read now :: after) stop) : due ≤ now := by
  obtain ⟨s, -, h⟩ := leads_append_iff.1 h
  obtain ⟨t, hslept, h⟩ := leads_cons_iff.1 h
  obtain ⟨u, hx, h⟩ := leads_cons_iff.1 h
  obtain ⟨v, hread, -⟩ := leads_cons_iff.1 h
  calc due
    _ ≤ max s due := le_max_right s due
    _ ≤ t := hslept
    _ ≤ u := le_of_keepsTime hx
    _ = now := hread.1.symm

/-- The moments that were slept for. -/
def alarms (trace : List UpdateExchange) : List Moment :=
  trace.filterMap fun x =>
    match (x.request : UpdateRequest) with
    | .sleepUntil moment => some moment
    | _ => none

theorem alarms_append (t u : List UpdateExchange) : alarms (t ++ u) = alarms t ++ alarms u :=
  List.filterMap_append

/-- Where time passes only in sleep, it does not pass beyond what was slept for. -/
theorem le_of_leads_punctual {start due made : Moment} {trace : List UpdateExchange}
    (hstart : start ≤ due) (halarms : ∀ moment ∈ alarms trace, moment ≤ due)
    (h : Leads punctual start trace made) : made ≤ due := by
  induction h with
  | nil s => exact hstart
  | @cons x trace s t u hx _ ih =>
      obtain ⟨q, reply⟩ := x
      change UpdateRequest at q
      cases q with
      | now => exact ih (hx.2 ▸ hstart) halarms
      | sleepUntil moment =>
          have hfirst : ∀ m ∈ moment :: alarms trace, m ≤ due := halarms
          rw [List.forall_mem_cons] at hfirst
          exact ih ((show t = max s moment from hx) ▸ max_le hstart hfirst.1) hfirst.2
      | _ => exact ih ((show t = s from hx) ▸ hstart) halarms

/-- An exchange of a trace is not made before it is due, and where time passes only in sleep it is made
just then. -/
def MadeAt (start due : Moment) (trace : List UpdateExchange) (x : UpdateExchange) : Prop :=
  ∃ before after, trace = before ++ x :: after ∧
    (∀ made, Leads keepsTime start before made → due ≤ made) ∧
    ∀ made, Leads punctual start before made → made = due

/-- What is slept for is made when it is due, if nothing before it was slept for that is due later. -/
theorem madeAt_of_slept {start due : Moment} {before after : List UpdateExchange} {x : UpdateExchange}
    (hstart : start ≤ due) (halarms : ∀ moment ∈ alarms before, moment ≤ due) :
    MadeAt start due (before ++ slept due :: x :: after) x := by
  refine ⟨before ++ [slept due], after, by simp, fun made h => ?_, fun made h => ?_⟩
  · obtain ⟨t, -, h⟩ := leads_append_iff.1 h
    obtain ⟨u, hu, h⟩ := leads_cons_iff.1 h
    rw [leads_nil_iff.1 h]
    exact (le_max_right t due).trans hu
  · obtain ⟨t, ht, h⟩ := leads_append_iff.1 h
    obtain ⟨u, hu, h⟩ := leads_cons_iff.1 h
    rw [leads_nil_iff.1 h]
    exact (show u = max t due from hu).trans (max_eq_right (le_of_leads_punctual hstart halarms ht))

theorem Moment.le_after (start : Moment) (wait : Duration) : start ≤ start.after wait := by
  unfold Moment.after
  split
  · exact Int.le_add_of_nonneg_right (Int.natCast_nonneg _)
  · exact Int.le_add_of_nonneg_right (Int.natCast_nonneg _)

/-- The addresses that were asked. -/
def askedUrls (trace : List UpdateExchange) : List String :=
  trace.filterMap fun x =>
    match (x.request : UpdateRequest) with
    | .get url _ => some url
    | _ => none

theorem askedUrls_append (t u : List UpdateExchange) :
    askedUrls (t ++ u) = askedUrls t ++ askedUrls u :=
  List.filterMap_append

namespace Health

/-! ### The parts of a check -/

theorem judgeUptime_eq_ok_iff {required : Duration} {details : Except DaemonError ContainerDetails}
    {now : Moment} :
    judgeUptime required details now = .ok () ↔
      ∃ c uptime, details = .ok c ∧ c.running = true ∧ c.uptime? now = some uptime ∧
        required.inNanos ≤ uptime.inNanos := by
  unfold judgeUptime
  cases details with
  | error e => simp
  | ok c =>
      cases hrunning : c.running with
      | false => simp [hrunning]
      | true =>
          cases huptime : c.uptime? now with
          | none => simp [hrunning, huptime]
          | some uptime =>
              by_cases hshort : uptime.inNanos < required.inNanos
              · simp [hrunning, huptime, hshort]
              · simp [hrunning, huptime, not_lt.1 hshort]

theorem judgePing_eq_ok_iff {url : String} {reply : HttpReply} :
    judgePing url reply = .ok () ↔
      ∃ status, reply.status = .ok status ∧ 200 ≤ status ∧ status < 300 := by
  unfold judgePing
  cases hstatus : reply.status with
  | error failure => simp
  | ok status =>
      by_cases hsuccess : HttpReply.isSuccess status
      · simpa [hsuccess] using of_decide_eq_true hsuccess
      · have hnot : ¬ (200 ≤ status ∧ status < 300) := fun h => hsuccess (decide_eq_true h)
        simpa [hsuccess] using hnot

namespace Check

variable {trace : List UpdateExchange} {verdict : Verdict} {finish : Moment}

theorem exists_of_runs_perform {c : Check} (h : Runs c.perform trace (verdict, finish)) :
    ∃ asked took, trace = slept c.due :: asked ∧ Runs c.ask asked (verdict, took) := by
  obtain ⟨t, u, _, rfl, hsleep, h⟩ := runs_bind_iff.1 h
  obtain ⟨v, w, ⟨given, took⟩, rfl, hask, h⟩ := runs_bind_iff.1 h
  obtain ⟨rfl, heq⟩ := runs_pure_iff.1 h
  rw [runs_call_iff.1 hsleep, List.append_nil]
  cases heq
  exact ⟨v, took, rfl, hask⟩

theorem exists_of_runs_uptime {id : String} {required : Duration} {due : Moment}
    (h : Runs (uptime id required due).perform trace (verdict, finish)) :
    ∃ details now, trace = [slept due, said (.inspect id) details, read now] ∧
      verdict = judgeUptime required details now := by
  obtain ⟨asked, took, rfl, hask⟩ := exists_of_runs_perform h
  obtain ⟨t, u, details, rfl, hinspect, h⟩ := runs_bind_iff.1 hask
  obtain ⟨v, w, now, rfl, hnow, h⟩ := runs_bind_iff.1 h
  obtain ⟨rfl, heq⟩ := runs_pure_iff.1 h
  rw [UpdateProgram.runs_daemon_iff.1 hinspect, runs_call_iff.1 hnow]
  exact ⟨details, now, rfl, congrArg Prod.fst heq⟩

theorem exists_of_runs_ping {url : String} {due : Moment}
    (h : Runs (ping url due).perform trace (verdict, finish)) :
    ∃ reply, trace = [slept due, fetched url pingTimeout reply] ∧ verdict = judgePing url reply := by
  obtain ⟨asked, took, rfl, hask⟩ := exists_of_runs_perform h
  obtain ⟨t, u, reply, rfl, hget, h⟩ := runs_bind_iff.1 hask
  obtain ⟨rfl, heq⟩ := runs_pure_iff.1 h
  rw [runs_call_iff.1 hget]
  exact ⟨reply, rfl, congrArg Prod.fst heq⟩

theorem askedUrls_uptime {id : String} {required : Duration} {due : Moment}
    (h : Runs (uptime id required due).perform trace (verdict, finish)) : askedUrls trace = [] := by
  obtain ⟨details, now, rfl, -⟩ := exists_of_runs_uptime h
  rfl

theorem daemonCalls_ping {url : String} {due : Moment}
    (h : Runs (ping url due).perform trace (verdict, finish)) : daemonCalls trace = [] :=
  calls_perform (calls_ping url due) _ _ h

theorem alarms_uptime {id : String} {required : Duration} {due : Moment}
    (h : Runs (uptime id required due).perform trace (verdict, finish)) : alarms trace = [due] := by
  obtain ⟨details, now, rfl, -⟩ := exists_of_runs_uptime h
  rfl

theorem alarms_ping {url : String} {due : Moment}
    (h : Runs (ping url due).perform trace (verdict, finish)) : alarms trace = [due] := by
  obtain ⟨reply, rfl, -⟩ := exists_of_runs_ping h
  rfl

theorem exists_of_runs_run {c : Check} (h : Runs c.run trace verdict) :
    ∃ t finish, trace = t ++ [slept finish] ∧ Runs c.perform t (verdict, finish) := by
  obtain ⟨t, u, ⟨given, finish⟩, rfl, hperform, h⟩ := runs_bind_iff.1 h
  obtain ⟨v, w, _, rfl, hsleep, h⟩ := runs_bind_iff.1 h
  obtain ⟨rfl, rfl⟩ := runs_pure_iff.1 h
  rw [runs_call_iff.1 hsleep]
  exact ⟨t, finish, rfl, hperform⟩

/-- Of two checks the one that is due first asks first. -/
theorem exists_of_runs_runBoth {a b : Check} {x y : Verdict} (h : Runs (a.runBoth b) trace (x, y)) :
    ∃ t u xFinish yFinish ended, Runs a.perform t (x, xFinish) ∧ Runs b.perform u (y, yFinish) ∧
      (a.due ≤ b.due ∧ trace = t ++ (u ++ [slept ended]) ∨
        b.due ≤ a.due ∧ trace = u ++ (t ++ [slept ended])) := by
  unfold runBoth at h
  split at h
  · next hle =>
      obtain ⟨t, w, ⟨x', xFinish⟩, rfl, hx, h⟩ := runs_bind_iff.1 h
      obtain ⟨u, w, ⟨y', yFinish⟩, rfl, hy, h⟩ := runs_bind_iff.1 h
      obtain ⟨v, w, _, rfl, hsleep, h⟩ := runs_bind_iff.1 h
      obtain ⟨rfl, heq⟩ := runs_pure_iff.1 h
      cases heq
      rw [runs_call_iff.1 hsleep]
      exact ⟨t, u, xFinish, yFinish, _, hx, hy, .inl ⟨hle, rfl⟩⟩
  · next hlt =>
      obtain ⟨u, w, ⟨y', yFinish⟩, rfl, hy, h⟩ := runs_bind_iff.1 h
      obtain ⟨t, w, ⟨x', xFinish⟩, rfl, hx, h⟩ := runs_bind_iff.1 h
      obtain ⟨v, w, _, rfl, hsleep, h⟩ := runs_bind_iff.1 h
      obtain ⟨rfl, heq⟩ := runs_pure_iff.1 h
      cases heq
      rw [runs_call_iff.1 hsleep]
      exact ⟨t, u, xFinish, yFinish, _, hx, hy, .inr ⟨(not_le.1 hlt).le, rfl⟩⟩

end Check

/-- The verdict on the uptime of a container, and what is asked for it: nothing when no uptime is
required, and else for the container, once, half again as long after the start. -/
inductive UptimeChecked (id : String) (labels : LabelSet) (start : Moment)
    (trace : List UpdateExchange) : Verdict → Prop where
  | undeclared (hlabel : labels.requiredUptime? = none) (hcalls : daemonCalls trace = []) :
      UptimeChecked id labels start trace (.ok ())
  | declared {required wait : Duration} (hlabel : labels.requiredUptime? = some required)
      (hwait : required.timesOneAndHalf? = some wait)
      (hlength : |(wait.inNanos : Rat) - 3 / 2 * required.inNanos| ≤
        1 / 2 + (required.inNanos : Rat) / 2 ^ 50)
      (hcalls : daemonCalls trace = [.inspect id])
      {details : Except DaemonError ContainerDetails} {now : Moment}
      (hmade : MadeAt start (start.after wait) trace (said (.inspect id) details))
      (hnow : read now ∈ trace) (hlater : start.after wait ≤ now)
      (hpasses : judgeUptime required details now = .ok () ↔
        ∃ c uptime, details = .ok c ∧ c.running = true ∧ c.uptime? now = some uptime ∧
          required.inNanos ≤ uptime.inNanos) :
      UptimeChecked id labels start trace (judgeUptime required details now)

/-- The verdict on an address, and what is asked for it: nothing when none is given, and else the
address, once, after the delay. -/
inductive PingChecked (labels : LabelSet) (start : Moment) (trace : List UpdateExchange) :
    Verdict → Prop where
  | undeclared (hlabel : labels.ping? = none) (hurls : askedUrls trace = []) :
      PingChecked labels start trace (.ok ())
  | declared {url : String} {delay : Duration} (hlabel : labels.ping? = some (url, delay))
      (hurls : askedUrls trace = [url]) {reply : HttpReply}
      (hmade : MadeAt start (start.after delay) trace (fetched url pingTimeout reply))
      (hpasses : judgePing url reply = .ok () ↔
        ∃ status, reply.status = .ok status ∧ 200 ≤ status ∧ status < 300) :
      PingChecked labels start trace (judgePing url reply)

section Parts

variable {id : String} {labels : LabelSet} {start stop finish : Moment}
  {before during after trace : List UpdateExchange} {verdict : Verdict}

theorem uptimeChecked_of_runs {required wait : Duration}
    (hlabel : labels.requiredUptime? = some required) (hwait : required.timesOneAndHalf? = some wait)
    (hrun : Runs (Check.uptime id required (start.after wait)).perform during (verdict, finish))
    (hbefore : daemonCalls before = []) (hafter : daemonCalls after = [])
    (halarms : ∀ moment ∈ alarms before, moment ≤ start.after wait)
    (hleads : Leads keepsTime start (before ++ (during ++ after)) stop) :
    UptimeChecked id labels start (before ++ (during ++ after)) verdict := by
  obtain ⟨details, now, rfl, rfl⟩ := Check.exists_of_runs_uptime hrun
  refine .declared hlabel hwait (Duration.timesOneAndHalf?_error hwait) ?_
    (madeAt_of_slept (start.le_after wait) halarms) ?_ (le_of_leads_read hleads)
    judgeUptime_eq_ok_iff
  · rw [daemonCalls_append, daemonCalls_append, hbefore, hafter]
    rfl
  · simp

theorem pingChecked_of_runs {url : String} {delay : Duration}
    (hlabel : labels.ping? = some (url, delay))
    (hrun : Runs (Check.ping url (start.after delay)).perform during (verdict, finish))
    (hbefore : askedUrls before = []) (hafter : askedUrls after = [])
    (halarms : ∀ moment ∈ alarms before, moment ≤ start.after delay) :
    PingChecked labels start (before ++ (during ++ after)) verdict := by
  obtain ⟨reply, rfl, rfl⟩ := Check.exists_of_runs_ping hrun
  refine .declared hlabel ?_ (madeAt_of_slept (start.le_after delay) halarms) judgePing_eq_ok_iff
  rw [askedUrls_append, askedUrls_append, hbefore, hafter]
  rfl

theorem checked_of_uptime {required wait : Duration}
    (hlabel : labels.requiredUptime? = some required) (hwait : required.timesOneAndHalf? = some wait)
    (hping : labels.ping? = none)
    (hrun : Runs (Check.uptime id required (start.after wait)).run trace verdict)
    (hleads : Leads keepsTime start ([read start] ++ trace) stop) :
    UptimeChecked id labels start ([read start] ++ trace) verdict ∧
      PingChecked labels start ([read start] ++ trace) (.ok ()) := by
  obtain ⟨during, finish, rfl, hperform⟩ := Check.exists_of_runs_run hrun
  refine ⟨uptimeChecked_of_runs hlabel hwait hperform rfl rfl nofun hleads, .undeclared hping ?_⟩
  rw [askedUrls_append, askedUrls_append, Check.askedUrls_uptime hperform]
  rfl

theorem checked_of_ping {url : String} {delay : Duration} (huptime : labels.requiredUptime? = none)
    (hlabel : labels.ping? = some (url, delay))
    (hrun : Runs (Check.ping url (start.after delay)).run trace verdict) :
    UptimeChecked id labels start ([read start] ++ trace) (.ok ()) ∧
      PingChecked labels start ([read start] ++ trace) verdict := by
  obtain ⟨during, finish, rfl, hperform⟩ := Check.exists_of_runs_run hrun
  refine ⟨.undeclared huptime ?_, pingChecked_of_runs hlabel hperform rfl rfl nofun⟩
  rw [daemonCalls_append, daemonCalls_append, Check.daemonCalls_ping hperform]
  rfl

/-- The part that is due first does not make the other one late, and what one asks the other does not. -/
theorem checked_of_both {required wait delay : Duration} {url : String} {uptime ping : Verdict}
    (hlabel : labels.requiredUptime? = some required) (hwait : required.timesOneAndHalf? = some wait)
    (hping : labels.ping? = some (url, delay))
    (hrun : Runs ((Check.uptime id required (start.after wait)).runBoth
      (Check.ping url (start.after delay))) trace (uptime, ping))
    (hleads : Leads keepsTime start ([read start] ++ trace) stop) :
    UptimeChecked id labels start ([read start] ++ trace) uptime ∧
      PingChecked labels start ([read start] ++ trace) ping := by
  obtain ⟨t, u, _, _, ended, huptime, haddress, ⟨hle, rfl⟩ | ⟨hle, rfl⟩⟩ :=
    Check.exists_of_runs_runBoth hrun
  · refine ⟨uptimeChecked_of_runs hlabel hwait huptime rfl ?_ nofun hleads, ?_⟩
    · rw [daemonCalls_append, Check.daemonCalls_ping haddress]
      rfl
    · rw [← List.append_assoc]
      refine pingChecked_of_runs hping haddress ?_ rfl ?_
      · rw [askedUrls_append, Check.askedUrls_uptime huptime]
        rfl
      · rw [alarms_append, Check.alarms_uptime huptime]
        exact List.forall_mem_singleton.2 hle
  · refine ⟨?_, pingChecked_of_runs hping haddress rfl ?_ nofun⟩
    · rw [← List.append_assoc] at hleads ⊢
      refine uptimeChecked_of_runs hlabel hwait huptime ?_ rfl ?_ hleads
      · rw [daemonCalls_append, Check.daemonCalls_ping haddress]
        rfl
      · rw [alarms_append, Check.alarms_ping haddress]
        exact List.forall_mem_singleton.2 hle
    · rw [askedUrls_append, Check.askedUrls_uptime huptime]
      rfl

end Parts

/-- Whatever the container and the address answer, and whichever part of a check ends first: the verdict
of each part that the labels ask for comes from one call, made when it is due, and the result is made
up of these verdicts. -/
theorem check_names_what_failed {id : String} {labels : LabelSet} {start stop : Moment}
    {trace : List UpdateExchange} {verdict : Except HealthError Unit}
    (hrequired : ∀ required, labels.requiredUptime? = some required →
      required.timesOneAndHalf?.isSome = true)
    (h : Converses keepsTime (check id labels) start trace verdict stop) :
    ∃ uptime ping, UptimeChecked id labels start trace uptime ∧
      PingChecked labels start trace ping ∧ verdict = combine uptime ping := by
  have hleads := h.leads
  obtain ⟨t, rest, now, s, rfl, hnow, hrest⟩ := converses_bind_iff.1 h
  have hshown := hnow.leads
  rw [runs_call_iff.1 hnow.runs] at hleads hshown ⊢
  obtain ⟨_, ⟨rfl, -⟩, -⟩ := leads_cons_iff.1 hshown
  replace hrest := hrest.runs
  cases huptime : labels.requiredUptime? with
  | none =>
      simp only [huptime] at hrest
      cases hping : labels.ping? with
      | none =>
          simp only [hping, Option.map_none] at hrest
          obtain ⟨rfl, rfl⟩ := runs_pure_iff.1 hrest
          exact ⟨_, _, .undeclared huptime rfl, .undeclared hping rfl, rfl⟩
      | some ping =>
          simp only [hping, Option.map_some] at hrest
          obtain ⟨v, w, verdict, rfl, hrun, hrest⟩ := runs_bind_iff.1 hrest
          obtain ⟨rfl, rfl⟩ := runs_pure_iff.1 hrest
          rw [List.append_nil]
          obtain ⟨hfirst, hsecond⟩ := checked_of_ping huptime hping hrun
          exact ⟨_, _, hfirst, hsecond, rfl⟩
  | some required =>
      obtain ⟨wait, hwait⟩ := Option.isSome_iff_exists.1 (hrequired required huptime)
      simp only [huptime, uptimeDue?, hwait, Option.map_some] at hrest
      cases hping : labels.ping? with
      | none =>
          simp only [hping, Option.map_none] at hrest
          obtain ⟨v, w, verdict, rfl, hrun, hrest⟩ := runs_bind_iff.1 hrest
          obtain ⟨rfl, rfl⟩ := runs_pure_iff.1 hrest
          rw [List.append_nil] at hleads ⊢
          obtain ⟨hfirst, hsecond⟩ := checked_of_uptime huptime hwait hping hrun hleads
          exact ⟨_, _, hfirst, hsecond, rfl⟩
      | some ping =>
          simp only [hping, Option.map_some] at hrest
          obtain ⟨v, w, ⟨first, second⟩, rfl, hrun, hrest⟩ := runs_bind_iff.1 hrest
          obtain ⟨rfl, rfl⟩ := runs_pure_iff.1 hrest
          rw [List.append_nil] at hleads ⊢
          obtain ⟨hfirst, hsecond⟩ := checked_of_both huptime hwait hping hrun hleads
          exact ⟨_, _, hfirst, hsecond, rfl⟩

/-- A daemon and a network in a world in which time passes only in sleep. -/
def timed (d : MemoryDaemon) (network : String → HttpReply) (q : UpdateRequest) (s : Moment) :
    q.Reply × Moment :=
  match q with
  | .daemon call => ((d.perform s call).1, s)
  | .get url _ => (network url, s)
  | .now => (s, s)
  | .sleepUntil moment => ((), max s moment)
  | .pull image => (some (d.perform s (.pull image)).1, s)
  | .store call => ((MemoryStore.empty.handle call).1, s)
  | .isCancelled => (false, s)

theorem punctual_timed (d : MemoryDaemon) (network : String → HttpReply) (q : UpdateRequest)
    (s : Moment) : punctual q s (timed d network q s).1 (timed d network q s).2 := by
  cases q with
  | now => exact ⟨rfl, rfl⟩
  | _ => rfl

/-- The check of a container in such a world. -/
abbrev timedCheck (d : MemoryDaemon) (network : String → HttpReply) (labels : LabelSet) :
    List UpdateExchange × Except HealthError Unit × Moment :=
  converse (I := updateInterface) (timed d network) (check "c1" labels) 0

theorem converses_timed (d : MemoryDaemon) (network : String → HttpReply) (labels : LabelSet) :
    Converses keepsTime (check "c1" labels) 0 (timedCheck d network labels).1
      (timedCheck d network labels).2.1 (timedCheck d network labels).2.2 :=
  converses_converse (I := updateInterface) (timed d network)
    (fun q s => keepsTime_of_punctual q s _ _ (punctual_timed d network q s)) (check "c1" labels) 0

/-- Labels that ask for both parts of a check. -/
def bothLabels : LabelSet :=
  .ofRaw [(Label.uptimeKey, "2s"), (Label.pingKey, "http://web/"), (Label.pingDelayKey, "5s")]

/-- The address answers, but nothing is known of how long the container was up. -/
theorem check_names_what_failed_web :
    let (trace, verdict, _) := timedCheck
      { MemoryDaemon.empty with containers := [MemoryDaemon.web []] } (fun _ => ⟨.ok 200, .zero⟩)
      bothLabels
    bothLabels.requiredUptime? = some (.short 2) ∧
      verdict = .error (.uptime "container start time unknown") ∧
      ∃ uptime ping, UptimeChecked "c1" bothLabels 0 trace uptime ∧
        PingChecked bothLabels 0 trace ping ∧ verdict = combine uptime ping := by
  have hlabel : bothLabels.requiredUptime? = some (.short 2) := by decide +kernel
  have hlong : (Duration.short 2).timesOneAndHalf?.isSome = true := by decide +kernel
  refine ⟨hlabel, by decide +kernel, check_names_what_failed (fun required hrequired => ?_)
    (converses_timed _ _ _)⟩
  cases hlabel.symm.trans hrequired
  exact hlong

/-- A wait that no timer counts is over after thirty years. And where a span does not fit 53 digits, what
is waited for is not half again as long. -/
theorem exists_check_over_early :
    (∃ labels required trace verdict stop, LabelSet.requiredUptime? labels = some required ∧
      required.timesOneAndHalf?.isSome = true ∧
      Converses keepsTime (check "c1" labels) 0 trace verdict stop ∧
      (daemonCalls trace).length = 1 ∧ 2 * stop < (3 * required.inNanos : Nat)) ∧
    (∃ labels url delay trace stop, LabelSet.requiredUptime? labels = none ∧
      labels.ping? = some (url, delay) ∧
      Converses keepsTime (check "c1" labels) 0 trace (.ok ()) stop ∧ askedUrls trace = [url] ∧
      stop < (delay.inNanos : Nat)) ∧
    ∃ required wait, Duration.timesOneAndHalf? required = some wait ∧
      2 * wait.inNanos + 1000000000 < 3 * required.inNanos := by
  let d := { MemoryDaemon.empty with containers := [MemoryDaemon.web []] }
  let network : String → HttpReply := fun _ => ⟨.ok 200, .zero⟩
  let span : Duration := ⟨9223372036854775808, 0, by decide, by decide⟩
  let longUptime := LabelSet.ofRaw [(Label.uptimeKey, "9223372036854775808s")]
  let longDelay := LabelSet.ofRaw
    [(Label.pingKey, "http://web/"), (Label.pingDelayKey, "9223372036854775808s")]
  have hpassed : (timedCheck d network longDelay).2.1 = .ok () := by decide +kernel
  have hfetched := converses_timed d network longDelay
  rw [hpassed] at hfetched
  refine ⟨⟨longUptime, span, _, _, _, by decide +kernel, by decide +kernel,
      converses_timed d network longUptime, by decide +kernel, by decide +kernel⟩,
    ⟨longDelay, "http://web/", span, _, _, by decide +kernel, by decide +kernel, hfetched,
      by decide +kernel, by decide +kernel⟩,
    ⟨9007199254740993, 0, by decide, by decide⟩, ⟨13510798882111488, 0, by decide, by decide⟩,
    by decide +kernel, by decide +kernel⟩

end Health

end ContainerFleet
