import ContainerFleet.Update.Request

/-!
Which exchanges a program can have with a world that replies anything, part by part, and which calls
to the daemon are among the exchanges of update code.
-/

namespace ContainerFleet

namespace Program

variable {I : Interface} {α β : Type}

theorem runs_pure_iff {a b : α} {trace : List (Exchange I)} :
    Runs (pure a : Program I α) trace b ↔ trace = [] ∧ b = a := by
  constructor
  · intro h
    cases h
    exact ⟨rfl, rfl⟩
  · rintro ⟨rfl, rfl⟩
    exact .done b

theorem runs_call_iff {q : I.Request} {r : I.Reply q} {trace : List (Exchange I)} :
    Runs (call q) trace r ↔ trace = [⟨q, r⟩] := by
  constructor
  · intro h
    cases h with
    | ask r h =>
        cases h
        rfl
  · rintro rfl
    exact .ask r (.done r)

theorem runs_bind_iff {p : Program I α} {f : α → Program I β} {trace : List (Exchange I)} {b : β} :
    Runs (p >>= f) trace b ↔ ∃ t u a, trace = t ++ u ∧ Runs p t a ∧ Runs (f a) u b := by
  constructor
  · exact exists_of_runs_bind
  · rintro ⟨t, u, a, rfl, hp, hf⟩
    exact hp.bind hf

/-- A trace around the exchange at some place. -/
theorem append_getElem_cons {t : List (Exchange I)} {n : Nat} (h : n < t.length) :
    t.take n ++ t[n] :: t.drop (n + 1) = t := by
  rw [List.getElem_cons_drop, List.take_append_drop]

end Program

/-- A request of update code with its reply. -/
abbrev UpdateExchange : Type :=
  Program.Exchange updateInterface

/-- Whether a request asks the daemon to change a container or an image reference. -/
def UpdateRequest.changesContainers : UpdateRequest → Bool
  | .daemon call => call.changesContainers
  | .pull _ => true
  | _ => false

/-- A call to the daemon with its reply. -/
def said (call : DaemonCall) (r : call.Reply) : UpdateExchange :=
  ⟨UpdateRequest.daemon call, r⟩

/-- The call to the daemon that an exchange is, if it is one. -/
def daemonCall? (x : UpdateExchange) : Option DaemonCall :=
  match (x.request : UpdateRequest) with
  | .daemon call => some call
  | _ => none

def daemonCalls (trace : List UpdateExchange) : List DaemonCall :=
  trace.filterMap daemonCall?

theorem daemonCalls_append (t u : List UpdateExchange) :
    daemonCalls (t ++ u) = daemonCalls t ++ daemonCalls u :=
  List.filterMap_append

@[simp]
theorem daemonCalls_nil : daemonCalls [] = [] :=
  rfl

@[simp]
theorem daemonCalls_said_cons (call : DaemonCall) (r : call.Reply) (t : List UpdateExchange) :
    daemonCalls (said call r :: t) = call :: daemonCalls t :=
  rfl

theorem mem_daemonCalls (call : DaemonCall) {reply : call.Reply} {t u : List UpdateExchange} :
    call ∈ daemonCalls (t ++ said call reply :: u) := by
  rw [daemonCalls_append, daemonCalls_said_cons]
  exact List.mem_append_right _ List.mem_cons_self

theorem exists_said_mem {call : DaemonCall} {trace : List UpdateExchange}
    (h : call ∈ daemonCalls trace) :
    ∃ reply, said call reply ∈ trace := by
  obtain ⟨⟨q, reply⟩, hx, hcall⟩ := List.mem_filterMap.1 h
  change UpdateRequest at q
  cases q with
  | daemon made =>
      cases hcall
      exact ⟨reply, hx⟩
  | _ => cases hcall

/-- Something is found behind a beginning that does not contain it. -/
theorem exists_of_append_eq_cons {β : Type} {x : β} {l m t u : List β} (hl : x ∉ l)
    (h : l ++ m = t ++ x :: u) : ∃ t', t = l ++ t' ∧ m = t' ++ x :: u := by
  rcases List.append_eq_append_iff.1 h with ⟨more, rfl, hm⟩ | ⟨more, rfl, hm⟩
  · exact ⟨more, rfl, hm⟩
  · cases more with
    | nil => exact ⟨[], by simp, hm.symm⟩
    | cons y more =>
        obtain ⟨rfl, -⟩ := List.cons.inj hm
        exact absurd (by simp) hl

/-- A call is found behind a beginning that does not contain it. -/
theorem exists_of_append_eq {call : DaemonCall} {reply : call.Reply} {l m t u : List UpdateExchange}
    (hl : call ∉ daemonCalls l) (h : l ++ m = t ++ said call reply :: u) :
    ∃ t', t = l ++ t' ∧ m = t' ++ said call reply :: u := by
  apply exists_of_append_eq_cons _ h
  intro hmem
  obtain ⟨v, w, rfl⟩ := List.append_of_mem hmem
  exact hl (mem_daemonCalls call)

/-- A call that occurs once is found in one place. -/
theorem eq_of_append_eq {call : DaemonCall} {reply : call.Reply} {x : UpdateExchange}
    {l m t u : List UpdateExchange} (hl : call ∉ daemonCalls l) (hm : call ∉ daemonCalls m)
    (h : l ++ x :: m = t ++ said call reply :: u) : t = l := by
  obtain ⟨t', rfl, hrest⟩ := exists_of_append_eq hl h
  cases t' with
  | nil => exact List.append_nil l
  | cons y t' =>
      rw [List.cons_append, List.cons.injEq] at hrest
      exact absurd (hrest.2 ▸ mem_daemonCalls call) hm

namespace UpdateProgram

variable {α β : Type}

theorem runs_daemon_iff {call : DaemonCall} {r : call.Reply} {trace : List UpdateExchange} :
    Program.Runs (daemon call) trace r ↔ trace = [said call r] :=
  Program.runs_call_iff

/-- A call, and what is done with its reply. -/
theorem runs_said_cons (call : DaemonCall) {f : call.Reply → UpdateProgram β} (r : call.Reply)
    {trace : List UpdateExchange} {b : β} (h : Program.Runs (f r) trace b) :
    Program.Runs (daemon call >>= f) (said call r :: trace) b :=
  Program.runs_bind_iff.2 ⟨[said call r], trace, r, rfl, runs_daemon_iff.2 rfl, h⟩

theorem runs_said_cons_iff {call : DaemonCall} {f : call.Reply → UpdateProgram β} {r : call.Reply}
    {trace : List UpdateExchange} {b : β} :
    Program.Runs (daemon call >>= f) (said call r :: trace) b ↔ Program.Runs (f r) trace b := by
  refine ⟨fun h => ?_, runs_said_cons call r⟩
  obtain ⟨t, u, made, heq, hcall, hrest⟩ := Program.runs_bind_iff.1 h
  rw [runs_daemon_iff.1 hcall] at heq
  cases heq
  exact hrest

/-- Update code that always makes exactly these calls to the daemon. -/
def Calls (p : UpdateProgram α) (calls : List DaemonCall) : Prop :=
  ∀ trace a, Program.Runs p trace a → daemonCalls trace = calls

theorem calls_pure (a : α) : Calls (pure a) [] := by
  intro trace b h
  rw [(Program.runs_pure_iff.1 h).1]
  rfl

theorem Calls.bind {p : UpdateProgram α} {f : α → UpdateProgram β} {calls more : List DaemonCall}
    (hp : Calls p calls) (hf : ∀ a, Calls (f a) more) : Calls (p >>= f) (calls ++ more) := by
  intro trace b h
  obtain ⟨t, u, a, rfl, ht, hu⟩ := Program.runs_bind_iff.1 h
  rw [daemonCalls_append, hp t a ht, hf a u b hu]

theorem calls_daemon (call : DaemonCall) : Calls (daemon call) [call] := by
  intro trace r h
  rw [runs_daemon_iff.1 h]
  rfl

theorem calls_get (url : String) (timeout : Duration) : Calls (get url timeout) [] := by
  intro trace r h
  rw [Program.runs_call_iff.1 h]
  rfl

theorem calls_now : Calls now [] := by
  intro trace r h
  rw [Program.runs_call_iff.1 h]
  rfl

theorem calls_sleepUntil (moment : Moment) : Calls (sleepUntil moment) [] := by
  intro trace r h
  rw [Program.runs_call_iff.1 h]
  rfl

end UpdateProgram

end ContainerFleet
