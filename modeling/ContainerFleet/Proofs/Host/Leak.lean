import ContainerFleet.Proofs.Host.Registered
import ContainerFleet.Proofs.Host.Resources
import ContainerFleet.Proofs.Host.Scripted
import ContainerFleet.Proofs.Map

/-!
Whether everything that is opened for the hosts is closed again, exactly once, or still held by the
host that it was opened for. Main statement: `History.accounted_iff`, that this is so as long as no
step breaks down and no start connects a host that is connected already.
-/

namespace ContainerFleet

open Program (Runs SideBySide own runs_bind_iff runs_pure_iff)
open Resource (ofSession)

/-- Whether a daemon of a host identifies itself. -/
def answersFor (name : String) : ConnectionExchange → Bool
  | ⟨.probe client, reply⟩ =>
    match (reply : Probed) with
    | .answered _ => client.host == name
    | _ => false
  | _ => false

/-- How often the daemon of a host identified itself. -/
def answersIn (name : String) (trace : List ConnectionExchange) : Nat :=
  trace.countP (answersFor name)

theorem Closes.answersIn_eq_zero {closing : List ConnectionExchange} (h : Closes closing)
    (name : String) : answersIn name closing = 0 := by
  rw [answersIn, List.countP_eq_zero]
  rintro ⟨q, reply⟩ hx
  have hcloses := h _ hx
  cases q with
  | closeClient client => exact nofun
  | closeSession session => exact nofun
  | _ => cases hcloses

theorem LeftBehind.perm_iff {t u : List ConnectionExchange} (h : t.Perm u) :
    LeftBehind t ↔ LeftBehind u := by
  simp [LeftBehind, h.mem_iff]

theorem OwnClients.subset {t u : List ConnectionExchange} (h : OwnClients u) (hsub : t ⊆ u) :
    OwnClients t :=
  fun name session client hmem => h name session client (hsub hmem)

namespace Registry

variable {r r' : Registry} {name localName : String} {host : Host} {op : Operation}
  {trace : List ConnectionExchange} {tagged : List (Nat × ConnectionExchange)}
  {attempt : Attempted Host} {attempts : List (Attempted Host)}

/-- How often a host was connected by some attempts. -/
def connections (name : String) (attempts : List (Attempted Host)) : Nat :=
  attempts.countP fun attempt =>
    match attempt with
    | .done host => host.name == name
    | _ => false

/-- A daemon identifies itself once when its host is connected, and not at all otherwise. -/
theorem answersIn_of_verifying {other : String} {session : Option Handle}
    (hv : Host.Verifying other session trace attempt) (howned : OwnClients trace) (name : String) :
    answersIn name trace = connections name [attempt] := by
  cases hv with
  | undialed => rfl
  | refused hclosing => exact (hclosing.answersIn_eq_zero name)
  | lost client moment => rfl
  | silent hclosing => exact hclosing.answersIn_eq_zero name
  | answered client moment info =>
      have hclient : client.host = other := howned other session client List.mem_cons_self
      subst hclient
      rfl

theorem answersIn_of_connecting {other : String}
    (hc : Host.Connecting localName other trace attempt) (howned : OwnClients trace) (name : String) :
    answersIn name trace = connections name [attempt] := by
  cases hc with
  | locally hname hv => exact answersIn_of_verifying hv howned name
  | unfound hname hreply hnone =>
      rcases attempt with host | e | -
      · exact absurd rfl (hnone host)
      · rfl
      · rfl
  | remotely hname hv =>
      exact answersIn_of_verifying hv (howned.subset (List.subset_cons_self _ _)) name

/-- What some hosts keep open that were connected side by side, and what is lost. By induction on the
hosts: the first one makes a run of its own. -/
theorem moves_of_sideBySide {names : List String}
    (h : SideBySide (names.map fun name => Host.connect name (name == localName)) tagged attempts) :
    ∃ lost, Moves (tagged.map Prod.snd) [] (attempts.flatMap Attempted.resources) lost ∧
      (lost = [] ↔ ¬ LeftBehind (tagged.map Prod.snd)) := by
  induction names generalizing tagged attempts with
  | nil =>
      obtain ⟨rfl, rfl⟩ := h.eq_nil
      exact ⟨[], .nil [], iff_of_true rfl not_leftBehind_nil⟩
  | cons name names ih =>
      obtain ⟨attempt, rest, rfl, hruns, hrest⟩ := h.exists_of_cons
      obtain ⟨lost, hfirst, hlost⟩ := Host.moves_of_runs_connect hruns
      obtain ⟨more, hothers, hmore⟩ := ih hrest
      have hframed := hothers.frame attempt.resources
      rw [List.append_nil] at hframed
      have hperm := Program.perm_own_zero tagged
      refine ⟨lost ++ more, (hfirst.append hframed).of_perm hperm.symm, ?_⟩
      rw [LeftBehind.perm_iff hperm, leftBehind_append, List.append_eq_nil_iff, hlost, hmore, not_or]

theorem answersIn_of_sideBySide {names : List String}
    (h : SideBySide (names.map fun name => Host.connect name (name == localName)) tagged attempts)
    (howned : OwnClients (tagged.map Prod.snd)) (name : String) :
    answersIn name (tagged.map Prod.snd) = connections name attempts := by
  induction names generalizing tagged attempts with
  | nil =>
      obtain ⟨rfl, rfl⟩ := h.eq_nil
      rfl
  | cons other names ih =>
      obtain ⟨attempt, rest, rfl, hruns, hrest⟩ := h.exists_of_cons
      have hperm := Program.perm_own_zero tagged
      have howned := howned.subset (fun x hx => hperm.mem_iff.2 hx)
      have hfirst := answersIn_of_connecting (Host.connecting_of_runs hruns)
        (howned.subset (List.subset_append_left _ _)) name
      have hothers := ih hrest (howned.subset (List.subset_append_right _ _))
      rw [answersIn, hperm.countP_eq, List.countP_append]
      rw [answersIn] at hfirst hothers
      rw [hfirst, hothers, connections, connections, connections, ← List.countP_append]
      rfl

/-- What the hosts keep open that are pushed out by the attempts of a start. -/
def superseded : Registry → List (Attempted Host) → List Resource
  | _, [] => []
  | r, .done host :: attempts => r.heldUnder host.name ++ superseded (r.insert host) attempts
  | r, .failed _ :: attempts => superseded r attempts
  | r, .brokenDown :: attempts => superseded r attempts

theorem count_held_insertConnected (h : (Map.keys r.hosts).Nodup)
    (attempts : List (Attempted Host)) (x : Resource) :
    (r.insertConnected attempts).held.count x + (superseded r attempts).count x =
      r.held.count x + (attempts.flatMap Attempted.resources).count x := by
  induction attempts generalizing r with
  | nil => rfl
  | cons attempt attempts ih =>
      rw [insertConnected_cons]
      rcases attempt with host | e | -
      · have hrest := ih (r := r.insert host) (Map.nodup_keys_insert h host.name host)
        have hinserted := count_held_insert h host x
        simp only [superseded, List.flatMap_cons, Attempted.resources, List.count_append]
        omega
      · exact ih h
      · exact ih h

theorem heldUnder_eq_nil_iff : r.heldUnder name = [] ↔ name ∉ r.names := by
  rw [mem_names_iff, heldUnder]
  cases r.hosts.get? name <;> simp [Host.resources]

/-- A start pushes nobody out when each of its hosts is new, and connected once. -/
theorem superseded_eq_nil_iff :
    superseded r attempts = [] ↔
      ∀ name, 0 < connections name attempts → name ∉ r.names ∧ connections name attempts = 1 := by
  induction attempts generalizing r with
  | nil => simp [superseded, connections]
  | cons attempt attempts ih =>
      rcases attempt with host | e | -
      · have hcount (name : String) : connections name (.done host :: attempts) =
            connections name attempts + if host.name = name then 1 else 0 := by
          simp [connections, List.countP_cons]
        rw [superseded, List.append_eq_nil_iff, heldUnder_eq_nil_iff, ih]
        simp only [hcount, mem_names_insert]
        constructor
        · rintro ⟨hnew, hrest⟩ name hpos
          by_cases hname : host.name = name
          · subst hname
            have hzero : connections host.name attempts = 0 :=
              Nat.eq_zero_of_not_pos fun hpos => (hrest _ hpos).1 (.inl rfl)
            simp [hnew, hzero]
          · rw [if_neg hname, Nat.add_zero] at hpos ⊢
            exact ⟨fun hmem => (hrest name hpos).1 (.inr hmem), (hrest name hpos).2⟩
        · intro hall
          obtain ⟨hnew, hone⟩ := hall host.name (by simp)
          refine ⟨hnew, fun name hpos => ?_⟩
          obtain ⟨hother, hcount⟩ := hall name (by omega)
          have hname : host.name ≠ name := by
            rintro rfl
            rw [if_pos rfl] at hone
            omega
          rw [if_neg hname, Nat.add_zero] at hcount
          exact ⟨by simp [hname.symm, hother], hcount⟩
      · simpa [superseded, connections] using ih
      · simpa [superseded, connections] using ih

/-- What an operation is handed over already open. -/
def Operation.given : Operation → List (String × Resource)
  | add name session => (ofSession session).map (name, ·)
  | bootstrap _ _ | connect _ | toggle _ _ | delete _ | shutdown => []

namespace Step

/-- What was opened for hosts up to the end of a step that was not open before it. -/
def opened (step : Step) : List (String × Resource) :=
  step.operation.given ++ openedIn step.trace

/-- A step starts the registry, and a host is connected in it that is there already, or one of them
more than once. -/
def Supersedes (there : String → Prop) (step : Step) : Prop :=
  (∃ turns machines, step.operation = .bootstrap turns machines) ∧
    ∃ name, 0 < answersIn name step.trace ∧ (there name ∨ 1 < answersIn name step.trace)

end Step

theorem moves_of_starts {turns : List Nat} {machines : List String}
    (hr : (Map.keys r.hosts).Nodup) (h : r.Starts machines tagged attempts)
    (howned : OwnClients (tagged.map Prod.snd)) :
    ∃ lost, Moves (tagged.map Prod.snd) r.held (r.insertConnected attempts).held lost ∧
      (lost = [] ↔ ¬ LeftBehind (tagged.map Prod.snd) ∧
        ¬ Step.Supersedes (· ∈ r.names) ⟨.bootstrap turns machines, tagged.map Prod.snd⟩) := by
  obtain ⟨lost, hmoves, hlost⟩ := moves_of_sideBySide h
  have hframed := hmoves.frame r.held
  rw [List.append_nil] at hframed
  refine ⟨superseded r attempts ++ lost, fun x => ?_, ?_⟩
  · have hx := hframed x
    have hheld := count_held_insertConnected hr attempts x
    simp only [List.count_append] at hx ⊢
    omega
  · have hsuperseded : superseded r attempts = [] ↔
        ¬ Step.Supersedes (· ∈ r.names) ⟨.bootstrap turns machines, tagged.map Prod.snd⟩ := by
      simp only [superseded_eq_nil_iff, Step.Supersedes, ← answersIn_of_sideBySide h howned,
        not_and, not_exists, not_or, Operation.bootstrap.injEq]
      constructor
      · intro hall _ name hpos
        obtain ⟨hnew, hone⟩ := hall name hpos
        exact ⟨hnew, by omega⟩
      · intro hall name hpos
        obtain ⟨hnew, hone⟩ := hall ⟨_, _, rfl, rfl⟩ name hpos
        exact ⟨hnew, by omega⟩
    rw [List.append_eq_nil_iff, hsuperseded, hlost, and_comm]

/-- What is open before an operation and what it opens is closed by it, held after it, or lost. -/
theorem moves_of_runs_perform (hr : (Map.keys r.hosts).Nodup) (howned : OwnClients trace)
    (h : Runs (op.perform r) trace r') :
    ∃ lost, Moves trace (r.held ++ op.given.map Prod.snd) r'.held lost ∧
      (lost = [] ↔ ¬ LeftBehind trace ∧ ¬ Step.Supersedes (· ∈ r.names) ⟨op, trace⟩) := by
  have hkept {op : Operation} {trace : List ConnectionExchange} {lost : List Resource}
      (hop : ∀ turns machines, op ≠ .bootstrap turns machines) (hlost : lost = [] ↔ ¬ LeftBehind trace) :
      lost = [] ↔ ¬ LeftBehind trace ∧ ¬ Step.Supersedes (· ∈ r.names) ⟨op, trace⟩ := by
    have hnone : ¬ Step.Supersedes (· ∈ r.names) ⟨op, trace⟩ :=
      fun ⟨⟨turns, machines, hstart⟩, _⟩ => hop turns machines hstart
    rw [hlost, and_iff_left hnone]
  cases op with
  | bootstrap turns machines =>
      obtain ⟨t, u, ⟨result, next⟩, rfl, ht, hend⟩ := runs_bind_iff.1 h
      obtain ⟨rfl, rfl⟩ := runs_pure_iff.1 hend
      obtain ⟨tagged, attempts, rfl, hstarts, hsettle⟩ := of_runs_bootstrap ht
      have hnext : r'.held = (r.insertConnected attempts).held := by
        rw [show r' = _ from congrArg Prod.snd hsettle]
        exact held_eq_of_hosts_eq (hosts_settle _)
      rw [List.append_nil] at howned ⊢
      rw [hnext, Operation.given, List.map_nil, List.append_nil]
      exact moves_of_starts hr hstarts howned
  | add name session =>
      obtain ⟨t, u, ⟨result, next⟩, rfl, ht, hend⟩ := runs_bind_iff.1 h
      obtain ⟨rfl, rfl⟩ := runs_pure_iff.1 hend
      obtain ⟨lost, hmoves, hlost⟩ := moves_of_runs_add hr ht
      rw [List.append_nil]
      refine ⟨lost, ?_, hkept nofun hlost⟩
      simpa [Operation.given, Function.comp_def] using hmoves
  | connect name =>
      obtain ⟨t, u, ⟨result, next⟩, rfl, ht, hend⟩ := runs_bind_iff.1 h
      obtain ⟨rfl, rfl⟩ := runs_pure_iff.1 hend
      obtain ⟨lost, hmoves, hlost⟩ := moves_of_runs_connect hr ht
      rw [List.append_nil, Operation.given, List.map_nil, List.append_nil]
      exact ⟨lost, hmoves, hkept nofun hlost⟩
  | toggle name enabled =>
      obtain ⟨t, u, ⟨result, next⟩, rfl, ht, hend⟩ := runs_bind_iff.1 h
      obtain ⟨rfl, rfl⟩ := runs_pure_iff.1 hend
      rw [List.append_nil, Operation.given, List.map_nil, List.append_nil]
      cases enabled with
      | true =>
          obtain ⟨lost, hmoves, hlost⟩ := moves_of_runs_connect hr ht
          exact ⟨lost, hmoves, hkept nofun hlost⟩
      | false =>
          obtain ⟨v, w, next, rfl, hv, hend⟩ := runs_bind_iff.1 ht
          obtain ⟨rfl, hresult⟩ := runs_pure_iff.1 hend
          obtain rfl : r' = next := congrArg Prod.snd hresult
          rw [List.append_nil]
          exact ⟨[], moves_of_runs_delete hr hv,
            hkept nofun (iff_of_true rfl (of_runs_delete hv).1.not_leftBehind)⟩
  | delete name =>
      rw [Operation.given, List.map_nil, List.append_nil]
      exact ⟨[], moves_of_runs_delete hr h,
        hkept nofun (iff_of_true rfl (of_runs_delete h).1.not_leftBehind)⟩
  | shutdown =>
      rw [Operation.given, List.map_nil, List.append_nil]
      exact ⟨[], moves_of_runs_deleteAll hr h,
        hkept nofun (iff_of_true rfl (of_runs_deleteAll h).1.not_leftBehind)⟩

theorem client_opened_of_verifying {session : Option Handle}
    (hv : Host.Verifying name session trace (.done host)) :
    (name, .client host.client) ∈ openedIn trace := by
  obtain ⟨-, -, moment, info, rfl⟩ := hv.of_done
  exact List.mem_filterMap.2 ⟨_, List.mem_cons_self, rfl⟩

/-- What a host keeps open that was connected from the start was opened for it. -/
theorem opened_of_connecting (hc : Host.Connecting localName name trace (.done host)) :
    ∀ x ∈ host.resources, (name, x) ∈ openedIn trace := by
  cases hc with
  | locally hname hv =>
      obtain ⟨-, hsession, -⟩ := hv.of_done
      rw [Host.resources, hsession]
      exact List.forall_mem_singleton.2 (client_opened_of_verifying hv)
  | unfound _ _ hnone => exact absurd rfl (hnone host)
  | @remotely session trace _ hname hv =>
      obtain ⟨-, hsession, -⟩ := hv.of_done
      rw [Host.resources, hsession]
      have hlooked : (name, Resource.session session) ∈
          openedIn (lookedUp name (.done (some session)) :: trace) :=
        List.mem_filterMap.2 ⟨_, List.mem_cons_self, rfl⟩
      refine List.forall_mem_cons.2 ⟨?_, List.forall_mem_singleton.2 hlooked⟩
      exact List.mem_cons_of_mem _ (client_opened_of_verifying hv)

/-- What a registered host keeps open was opened for it in this step, or the host was there before. -/
theorem Effect.opened_or (h : r.Effect op trace r') (hget : r'.hosts.get? name = some host) :
    (∀ x ∈ host.resources, (name, x) ∈ Step.opened ⟨op, trace⟩) ∨ r.hosts.get? name = some host := by
  have hadopt {attempt : Attempted Host}
      (hdone : ∀ h, attempt = .done h → ∀ x ∈ h.resources, (h.name, x) ∈ Step.opened ⟨op, trace⟩)
      (hget : (r.adopt attempt).hosts.get? name = some host) :
      (∀ x ∈ host.resources, (name, x) ∈ Step.opened ⟨op, trace⟩) ∨
        r.hosts.get? name = some host := by
    revert hget
    refine adopt_keeps (P := fun s => s.hosts.get? name = some host → _) .inr fun other hother => ?_
    rw [get?_replaced]
    split
    · next hname =>
        rintro ⟨rfl⟩
        exact .inl (hname ▸ hdone _ hother)
    · exact .inr
  cases h with
  | bootstrapped hstarts =>
      rw [hosts_settle] at hget
      rcases get?_insertConnected hget with ⟨hdone, rfl⟩ | hbefore
      · obtain ⟨i, -, hc⟩ := hstarts.exists_of_done hdone
        refine .inl fun x hx => List.mem_append_right _ ?_
        exact (Program.own_sublist.filterMap openedBy).subset (opened_of_connecting hc x hx)
      · exact .inr hbefore
  | @added _ session _ _ _ hv hclosing =>
      refine hadopt (fun h hdone x hx => ?_) hget
      subst hdone
      obtain ⟨rfl, rfl, -⟩ := hv.of_done
      rw [Step.opened, openedIn, List.filterMap_append, List.mem_append, List.mem_append]
      rcases List.mem_cons.1 hx with rfl | hx
      · exact .inr (.inl (client_opened_of_verifying hv))
      · exact .inl (List.mem_map_of_mem hx)
  | connected hop hc hclosing =>
      refine hadopt (fun h hdone x hx => ?_) hget
      subst hdone
      obtain ⟨rfl, -⟩ := hc.of_done
      refine List.mem_append_right _ ?_
      exact ((List.sublist_append_left _ _).filterMap openedBy).subset (opened_of_connecting hc x hx)
  | deleted hop hclosing =>
      rw [hosts_without, Map.get?_erase] at hget
      split at hget
      · cases hget
      · exact .inr hget
  | shutDown hclosing => exact .inr (get?_of_foldl_without hget)

/-- All that was opened in some steps, with the hosts that it was opened for. -/
def opened (steps : List Step) : List (String × Resource) :=
  steps.flatMap Step.opened

def closed (steps : List Step) : List Resource :=
  steps.flatMap fun step => closedIn step.trace

theorem opened_concat (steps : List Step) (step : Step) :
    opened (steps ++ [step]) = opened steps ++ step.opened := by
  simp [opened]

theorem closed_concat (steps : List Step) (step : Step) :
    closed (steps ++ [step]) = closed steps ++ closedIn step.trace := by
  simp [closed]

/-- Everything that was opened is held by the host that it was opened for, or it was closed exactly
once; and nothing that is held was closed. -/
structure Accounted (steps : List Step) (r : Registry) : Prop where
  held_or_closed : ∀ opening ∈ opened steps,
    opening.2 ∈ r.heldUnder opening.1 ∨ (closed steps).count opening.2 = 1
  still_open : ∀ name, ∀ x ∈ r.heldUnder name, x ∉ closed steps

theorem mem_heldUnder_iff {x : Resource} :
    x ∈ r.heldUnder name ↔ ∃ host, r.hosts.get? name = some host ∧ x ∈ host.resources := by
  rw [heldUnder]
  cases r.hosts.get? name <;> simp

/-- What is held is held by the host of some name. -/
theorem mem_held_iff (h : (Map.keys r.hosts).Nodup) {x : Resource} :
    x ∈ r.held ↔ ∃ name, x ∈ r.heldUnder name := by
  simp only [held, List.mem_flatMap, mem_heldUnder_iff]
  constructor
  · rintro ⟨⟨name, host⟩, hmem, hx⟩
    exact ⟨name, host, (Map.get?_eq_some_iff_mem fun _ _ => Map.eq_of_nodup_keys h).2 hmem, hx⟩
  · rintro ⟨name, host, hget, hx⟩
    exact ⟨(name, host), (Map.get?_eq_some_iff_mem fun _ _ => Map.eq_of_nodup_keys h).1 hget, hx⟩

theorem forall_split_concat {α : Type} {P : List α → α → Prop} {l : List α} {y : α} :
    (∀ before x after, l ++ [y] = before ++ x :: after → P before x) ↔
      (∀ before x after, l = before ++ x :: after → P before x) ∧ P l y := by
  constructor
  · intro h
    exact ⟨fun before x after hl => h before x (after ++ [y]) (by simp [hl]), h l y [] rfl⟩
  · rintro ⟨hall, hlast⟩ before x after hl
    rcases List.eq_nil_or_concat after with rfl | ⟨after, z, rfl⟩
    · obtain ⟨rfl, heq⟩ := List.append_inj' hl rfl
      cases heq
      exact hlast
    · rw [List.concat_eq_append, ← List.cons_append, ← List.append_assoc] at hl
      exact hall before x after (List.append_inj' hl rfl).1

variable {steps : List Step}

/-- What registered hosts keep open was opened for them. -/
theorem History.opened_of_get? (h : History (empty localName) steps r)
    (hget : r.hosts.get? name = some host) : ∀ x ∈ host.resources, (name, x) ∈ opened steps := by
  induction h with
  | nil => cases hget
  | snoc h hstep ih =>
      intro x hx
      rw [opened_concat, List.mem_append]
      rcases (effect_of_runs hstep).opened_or hget with hopened | hbefore
      · exact .inr (hopened x hx)
      · exact .inl (ih hbefore x hx)

theorem History.opened_of_held (h : History (empty localName) steps r) {x : Resource}
    (hx : x ∈ r.heldUnder name) : (name, x) ∈ opened steps := by
  obtain ⟨host, hget, hx⟩ := mem_heldUnder_iff.1 hx
  exact h.opened_of_get? hget x hx

/-- After any steps, what was opened was closed, is held, or was lost; and it is lost where something
is left behind, or a start connects a host that is there already. -/
theorem History.exists_lost (h : History (empty localName) steps r)
    (howned : ∀ step ∈ steps, OwnClients step.trace) :
    ∃ lost : List Resource,
      (∀ x, ((opened steps).map Prod.snd).count x =
        (closed steps).count x + r.held.count x + lost.count x) ∧
      (lost = [] ↔ ∀ before step after, steps = before ++ step :: after →
        ¬ LeftBehind step.trace ∧ ¬ step.Supersedes (Shown localName before)) := by
  induction h with
  | nil => exact ⟨[], fun x => rfl, iff_of_true rfl (by simp)⟩
  | @snoc steps r r' step h hstep ih =>
      rw [List.forall_mem_append, List.forall_mem_singleton] at howned
      obtain ⟨lost, hcount, hlost⟩ := ih howned.1
      obtain ⟨more, hmoves, hmore⟩ := moves_of_runs_perform h.nodup_keys howned.2 hstep
      have hshown : (fun name => name ∈ r.names) = Shown localName steps :=
        funext fun name => propext (h.mem_names_iff howned.1)
      rw [hshown] at hmore
      refine ⟨lost ++ more, fun x => ?_, ?_⟩
      · have hbefore := hcount x
        have hx := hmoves x
        simp only [opened_concat, closed_concat, Step.opened, List.map_append, List.count_append]
          at hbefore hx ⊢
        omega
      · rw [forall_split_concat, List.append_eq_nil_iff, hlost, hmore]

/-- Everything is accounted for exactly as long as no step breaks down while something is open, and no
start connects a host that is there already, or one of them more than once. -/
theorem History.accounted_iff (h : History (empty localName) steps r)
    (howned : ∀ step ∈ steps, OwnClients step.trace)
    (hfresh : ((opened steps).map Prod.snd).Nodup) :
    Accounted steps r ↔ ∀ before step after, steps = before ++ step :: after →
      ¬ LeftBehind step.trace ∧ ¬ step.Supersedes (Shown localName before) := by
  obtain ⟨lost, hcount, hlost⟩ := h.exists_lost howned
  have honce := List.nodup_iff_count_le_one.1 hfresh
  have hheld {name : String} {x : Resource} (hx : x ∈ r.heldUnder name) : 0 < r.held.count x :=
    List.count_pos_iff.2 ((mem_held_iff h.nodup_keys).2 ⟨name, hx⟩)
  rw [← hlost]
  constructor
  · intro hall
    refine List.eq_nil_iff_forall_not_mem.2 fun x hx => ?_
    have hpos := List.count_pos_iff.2 hx
    have hx := hcount x
    have hle := honce x
    obtain ⟨opening, hopening, rfl⟩ := List.mem_map.1 (List.count_pos_iff.1
      (show 0 < ((opened steps).map Prod.snd).count x by omega))
    rcases hall.held_or_closed opening hopening with hkept | hclosed
    · have := hheld hkept
      omega
    · omega
  · rintro rfl
    constructor
    · rintro ⟨name, x⟩ hopening
      have hpos := List.count_pos_iff.2 (List.mem_map_of_mem (f := Prod.snd) hopening)
      have hle := honce x
      have hx := hcount x
      rw [List.count_nil] at hx
      by_cases hzero : r.held.count x = 0
      · right
        dsimp only at hpos ⊢
        omega
      · left
        obtain ⟨other, hother⟩ := (mem_held_iff h.nodup_keys).1
          (List.count_pos_iff.1 (Nat.pos_of_ne_zero hzero))
        have hsame := List.inj_on_of_nodup_map hfresh (h.opened_of_held hother) hopening rfl
        cases hsame
        exact hother
    · intro name x hkept hclosed
      have hpos := hheld hkept
      have hclosed := List.count_pos_iff.2 hclosed
      have hle := honce x
      have hx := hcount x
      omega

/-- A host that is connected, and once more. -/
def reconnected : List Step × Registry × ConnectionWorld :=
  play ConnectionWorld.handle [.connect "edge-1", .connect "edge-1"] (empty "local")
    (.start .unsteady)

/-- The old session and client of a host are closed when it is connected again. -/
theorem accounted_reconnected :
    (History (empty "local") reconnected.1 reconnected.2.1 ∧
      (∀ step ∈ reconnected.1, OwnClients step.trace) ∧
      ((opened reconnected.1).map Prod.snd).Nodup) ∧
      Accounted reconnected.1 reconnected.2.1 := by
  have h : History (empty "local") reconnected.1 reconnected.2.1 := history_play _ _ _ _
  have howned : ∀ step ∈ reconnected.1, OwnClients step.trace := ownClients_play _ _ _
  have hfresh : ((opened reconnected.1).map Prod.snd).Nodup := by decide +kernel
  have hsteps : ∀ step ∈ reconnected.1,
      ¬ LeftBehind step.trace ∧ step.operation = .connect "edge-1" := by decide +kernel
  refine ⟨⟨h, howned, hfresh⟩, (History.accounted_iff h howned hfresh).2 ?_⟩
  intro before step after hsplit
  obtain ⟨hleft, hop⟩ := hsteps step (by simp [hsplit])
  refine ⟨hleft, fun ⟨⟨turns, machines, hstart⟩, _⟩ => ?_⟩
  rw [hop] at hstart
  cases hstart

/-- The same start twice. -/
def restarted : List Step × Registry × ConnectionWorld :=
  play ConnectionWorld.handle [.bootstrap [] ["edge-1"], .bootstrap [] ["edge-1"]] (empty "local")
    (.start .unsteady)

/-- A client that a second start pushes out is not closed. -/
theorem not_accounted_restarted :
    History (empty "local") restarted.1 restarted.2.1 ∧
      (∀ step ∈ restarted.1, OwnClients step.trace) ∧
      ((opened restarted.1).map Prod.snd).Nodup ∧
      ¬ Accounted restarted.1 restarted.2.1 := by
  refine ⟨history_play _ _ _ _, ownClients_play _ _ _, by decide +kernel, fun h => ?_⟩
  have hopened : ("edge-1", Resource.client ⟨"edge-1", 1⟩) ∈ opened restarted.1 := by decide +kernel
  rcases h.held_or_closed _ hopened with hheld | hclosed
  · revert hheld
    decide +kernel
  · revert hclosed
    decide +kernel

end Registry

end ContainerFleet
