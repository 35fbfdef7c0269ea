import ContainerFleet.Host.Fleet
import ContainerFleet.Proofs.Host.Operation

/-!
Which hosts are registered. Main statements: `Effect.mem_names_iff`, that an operation adds those whose
session, dial and probe succeed and removes those that it forgets, and `History.refines`, what the
registry shows after any operations.
-/

namespace ContainerFleet

open Program (Runs SideBySide own)

namespace Registry

variable {r r' : Registry} {name localName : String} {host : Host} {op : Operation}
  {trace closing : List ConnectionExchange} {attempt : Attempted Host}

/-- Whether an operation connects a host from the start. -/
def Operation.Tries (localName : String) (op : Operation) (name : String) : Prop :=
  op.Connects name ∨
    ∃ turns machines, op = .bootstrap turns machines ∧ (name = localName ∨ name ∈ machines)

/-- `Passes localName trace op name`: among the exchanges of the operation are a session, a dial and
a probe of this host that all succeeded. A host that is added is given a session, and the local one
needs none. -/
inductive Passes (localName : String) (trace : List ConnectionExchange) :
    Operation → String → Prop where
  | added {name : String} {session : Option Handle} {client : Handle} {info : DaemonInfo}
      (h : [dialed name session (.connected client), probed client (.answered info)].Sublist trace) :
      Passes localName trace (.add name session) name
  | connected {op : Operation} {name : String} (hop : op.Tries localName name)
      (h : Host.PassedIn localName name trace) : Passes localName trace op name

theorem Passes.exists_answered (h : Passes localName trace op name) :
    ∃ session client info, dialed name session (.connected client) ∈ trace ∧
      probed client (.answered info) ∈ trace := by
  cases h with
  | added h =>
      exact ⟨_, _, _, h.subset List.mem_cons_self,
        h.subset (List.mem_cons_of_mem _ (List.mem_singleton_self _))⟩
  | connected hop h => exact h.exists_answered

/-- Where things are only closed, no host passes. -/
theorem not_passes_of_closes (h : Closes trace) : ¬ Passes localName trace op name := by
  intro hpasses
  obtain ⟨-, client, info, -, hprobed⟩ := hpasses.exists_answered
  exact h.probed_not_mem client _ hprobed

/-- A probe that was answered was answered before things were closed. -/
theorem probed_mem_left {client : Handle} {info : DaemonInfo} (hclosing : Closes closing)
    (h : probed client (.answered info) ∈ trace ++ closing) :
    probed client (.answered info) ∈ trace :=
  (List.mem_append.1 h).resolve_right (hclosing.probed_not_mem client _)

theorem passes_add_iff {other : String} {session : Option Handle}
    (hv : Host.Verifying other session trace attempt) (hclosing : Closes closing) :
    Passes localName (trace ++ closing) (.add other session) name ↔
      ∃ host, attempt = .done host ∧ host.name = name := by
  constructor
  · intro h
    obtain ⟨-, client, info, -, hprobed⟩ := h.exists_answered
    obtain ⟨⟨host, rfl⟩, -⟩ := hv.done_of_probed (probed_mem_left hclosing hprobed)
    refine ⟨host, rfl, hv.of_done.1.trans ?_⟩
    cases h with
    | added => rfl
    | connected hop =>
        rcases hop with (hop | hop) | ⟨turns, machines, hop, -⟩ <;> cases hop
  · rintro ⟨host, rfl, rfl⟩
    obtain ⟨info, hsub⟩ := hv.answered_of_done
    obtain ⟨rfl, rfl, -⟩ := hv.of_done
    exact .added (hsub.trans (List.sublist_append_left _ _))

theorem passes_connect_iff {other : String} (hop : op.Connects other)
    (hc : Host.Connecting localName other trace attempt) (hclosing : Closes closing) :
    Passes localName (trace ++ closing) op name ↔
      ∃ host, attempt = .done host ∧ host.name = name := by
  constructor
  · intro h
    obtain ⟨-, client, info, -, hprobed⟩ := h.exists_answered
    obtain ⟨⟨host, rfl⟩, -⟩ := hc.done_of_probed (probed_mem_left hclosing hprobed)
    refine ⟨host, rfl, hc.of_done.1.trans ?_⟩
    cases h with
    | added => rcases hop with hop | hop <;> cases hop
    | connected htries =>
        rcases htries with htries | ⟨turns, machines, rfl, -⟩
        · rcases hop with rfl | rfl <;> rcases htries with htries | htries <;> cases htries <;> rfl
        · rcases hop with hop | hop <;> cases hop
  · rintro ⟨host, rfl, rfl⟩
    obtain ⟨rfl, -, hpassed⟩ := hc.of_done
    exact .connected (.inl hop) (hpassed.mono (List.sublist_append_left _ _))

section Start

variable {machines : List String} {tagged : List (Nat × ConnectionExchange)}
  {attempts : List (Attempted Host)}

/-- Each host of a start is connected by exchanges of its own. -/
theorem Starts.connecting (h : r.Starts machines tagged attempts) {i : Nat}
    (hi : (r.candidates machines)[i]? = some name) :
    ∃ attempt, attempts[i]? = some attempt ∧
      Host.Connecting r.localName name (own i tagged) attempt := by
  obtain ⟨attempt, hattempt, hruns⟩ := SideBySide.runs h i
    (Host.connect name (name == r.localName)) (by rw [List.getElem?_map, hi, Option.map_some])
  exact ⟨attempt, hattempt, Host.connecting_of_runs hruns⟩

theorem Starts.exists_of_mem (h : r.Starts machines tagged attempts)
    {x : Nat × ConnectionExchange} (hx : x ∈ tagged) :
    ∃ name attempt, (r.candidates machines)[x.1]? = some name ∧ attempts[x.1]? = some attempt ∧
      Host.Connecting r.localName name (own x.1 tagged) attempt := by
  have hlength := SideBySide.known h x hx
  rw [List.length_map] at hlength
  obtain ⟨attempt, hattempt, hc⟩ := h.connecting (List.getElem?_eq_getElem hlength)
  exact ⟨_, attempt, List.getElem?_eq_getElem hlength, hattempt, hc⟩

theorem Starts.exists_of_done (h : r.Starts machines tagged attempts)
    (hdone : .done host ∈ attempts) :
    ∃ i, (r.candidates machines)[i]? = some host.name ∧
      Host.Connecting r.localName host.name (own i tagged) (.done host) := by
  obtain ⟨i, hi⟩ := List.mem_iff_getElem?.1 hdone
  have hlength : i < (r.candidates machines).length := by
    have hbound := (List.getElem?_eq_some_iff.1 hi).1
    rwa [SideBySide.length_eq h, List.length_map] at hbound
  obtain ⟨attempt, hattempt, hc⟩ := h.connecting (List.getElem?_eq_getElem hlength)
  obtain rfl : .done host = attempt := Option.some.inj (hi.symm.trans hattempt)
  obtain ⟨hname, -⟩ := hc.of_done
  rw [hname]
  exact ⟨i, List.getElem?_eq_getElem hlength, hc⟩

theorem mem_candidates : name ∈ r.candidates machines ↔ name = r.localName ∨ name ∈ machines := by
  by_cases h : name = r.localName <;> simp [candidates, h]

/-- In a start those hosts pass that come to be connected. A probe that was answered is one of the
exchanges that connect the host of its client, and so of the host that was dialed for it. -/
theorem passes_bootstrap_iff {turns : List Nat} (h : r.Starts machines tagged attempts)
    (howned : OwnClients (tagged.map Prod.snd)) :
    Passes r.localName (tagged.map Prod.snd) (.bootstrap turns machines) name ↔
      ∃ host, .done host ∈ attempts ∧ host.name = name := by
  constructor
  · intro hpasses
    obtain ⟨session, client, info, hdialed, hprobed⟩ := hpasses.exists_answered
    obtain ⟨x, hx, hprobe⟩ := List.mem_map.1 hprobed
    obtain ⟨other, attempt, hi, hattempt, hc⟩ := h.exists_of_mem hx
    have hmem : probed client (.answered info) ∈ own x.1 tagged :=
      Program.mem_own.2 (hprobe ▸ hx)
    obtain ⟨⟨host, rfl⟩, through, hother⟩ := hc.done_of_probed hmem
    refine ⟨host, List.mem_of_getElem? hattempt, hc.of_done.1.trans ?_⟩
    rw [← howned _ _ _ hdialed, ← howned other through client (Program.own_sublist.subset hother)]
  · rintro ⟨host, hdone, rfl⟩
    obtain ⟨i, hi, hc⟩ := h.exists_of_done hdone
    obtain ⟨-, -, hpassed⟩ := hc.of_done
    exact .connected (.inr ⟨turns, machines, rfl, mem_candidates.1 (List.mem_of_getElem? hi)⟩)
      (hpassed.mono Program.own_sublist)

end Start

theorem passes_start_iff {turns : List Nat} {machines : List String} :
    Passes localName trace (.bootstrap turns machines) name ↔
      (name = localName ∨ name ∈ machines) ∧ Host.PassedIn localName name trace := by
  constructor
  · rintro (- | ⟨(hop | hop) | ⟨turns, machines, hop, hname⟩, hpassed⟩)
    · cases hop
    · cases hop
    · cases hop
      exact ⟨hname, hpassed⟩
  · rintro ⟨hname, hpassed⟩
    exact .connected (.inr ⟨turns, machines, rfl, hname⟩) hpassed

theorem mem_names_adopt :
    name ∈ (r.adopt attempt).names ↔
      name ∈ r.names ∨ ∃ host, attempt = .done host ∧ host.name = name := by
  cases attempt with
  | done host => rw [adopt, mem_names_replaced]; simp [or_comm, eq_comm]
  | failed e => simp [adopt]
  | brokenDown => simp [adopt]

/-- After an operation those hosts are registered that were before and are not removed by it, and
those that pass in it. -/
theorem Effect.mem_names_iff (h : r.Effect op trace r') (howned : OwnClients trace) :
    name ∈ r'.names ↔
      (name ∈ r.names ∧ ¬ op.Removes name) ∨ Passes r.localName trace op name := by
  cases h with
  | @bootstrapped turns machines tagged attempts hstarts =>
      have hkept : ¬ (Operation.bootstrap turns machines).Removes name := by
        rintro ((hop | hop) | hop) <;> cases hop
      rw [names_settle, mem_names_insertConnected, passes_bootstrap_iff hstarts howned, or_comm,
        and_iff_left hkept]
  | @added other session _ _ _ hv hclosing =>
      have hkept : ¬ (Operation.add other session).Removes name := by
        rintro ((hop | hop) | hop) <;> cases hop
      rw [mem_names_adopt, passes_add_iff hv hclosing, and_iff_left hkept]
  | connected hop hc hclosing =>
      rw [mem_names_adopt, passes_connect_iff hop hc hclosing, and_iff_left hop.not_removes]
  | deleted hop hclosing =>
      rw [mem_names_without, hop.removes_iff, or_iff_left (not_passes_of_closes hclosing)]
  | shutDown hclosing =>
      rw [mem_names_foldl_without, or_iff_left (not_passes_of_closes hclosing)]
      simp [Operation.Removes]

/-- A host that is registered after an operation was connected in it, or was registered before. -/
theorem Effect.answered_or (h : r.Effect op trace r') (hget : r'.hosts.get? name = some host) :
    (host.name = name ∧ host.Answered trace) ∨ r.hosts.get? name = some host := by
  have hadopt {attempt : Attempted Host} {t : List ConnectionExchange} (hsub : t.Sublist trace)
      (hdone : ∀ h, attempt = .done h → h.Answered t)
      (hget : (r.adopt attempt).hosts.get? name = some host) :
      (host.name = name ∧ host.Answered trace) ∨ r.hosts.get? name = some host := by
    revert hget
    refine adopt_keeps (P := fun s => s.hosts.get? name = some host → _) .inr fun other hother => ?_
    rw [get?_replaced]
    split
    · next hname =>
        rintro ⟨rfl⟩
        exact .inl ⟨hname, (hdone _ hother).mono hsub⟩
    · exact .inr
  cases h with
  | bootstrapped hstarts =>
      rw [hosts_settle] at hget
      rcases get?_insertConnected hget with ⟨hdone, hname⟩ | hbefore
      · obtain ⟨i, -, hc⟩ := hstarts.exists_of_done hdone
        exact .inl ⟨hname, hc.of_done.2.1.mono Program.own_sublist⟩
      · exact .inr hbefore
  | added hv hclosing =>
      refine hadopt (List.sublist_append_left _ _) (fun h hdone => ?_) hget
      subst hdone
      exact hv.answered_of_done
  | connected hop hc hclosing =>
      refine hadopt (List.sublist_append_left _ _) (fun h hdone => ?_) hget
      subst hdone
      exact hc.of_done.2.1
  | deleted hop hclosing =>
      rw [hosts_without, Map.get?_erase] at hget
      split at hget
      · cases hget
      · exact .inr hget
  | shutDown hclosing => exact .inr (get?_of_foldl_without hget)

/-- No name is in the registry twice. -/
theorem Effect.nodup_keys (h : r.Effect op trace r') (hr : (Map.keys r.hosts).Nodup) :
    (Map.keys r'.hosts).Nodup := by
  refine h.keeps (P := fun s => (Map.keys s.hosts).Nodup) hr (fun attempts => ?_)
    (fun s host hs => ?_) fun s name hs => ?_
  · rw [hosts_settle]
    exact nodup_keys_insertConnected hr attempts
  · rw [hosts_replaced]
    exact Map.nodup_keys_insert (Map.nodup_keys_erase hs host.name) host.name host
  · rw [hosts_without]
    exact Map.nodup_keys_erase hs name

/-- The names that are shown after some steps: a name is added when its host passes, and removed when
the host is. -/
def Shown (localName : String) (steps : List Step) : String → Prop :=
  steps.foldl
    (fun shown step name => (shown name ∧ ¬ step.operation.Removes name) ∨
      Passes localName step.trace step.operation name)
    fun _ => False

theorem shown_concat (steps : List Step) (step : Step) :
    Shown localName (steps ++ [step]) name ↔
      (Shown localName steps name ∧ ¬ step.operation.Removes name) ∨
        Passes localName step.trace step.operation name := by
  rw [Shown, List.foldl_append]
  rfl

/-- The registry shows the names that it has to show after some steps. -/
structure Refines (localName : String) (steps : List Step) (r : Registry) : Prop where
  sorted : r.names.Pairwise (· < ·)
  mem_names_iff {name : String} : name ∈ r.names ↔ Shown localName steps name
  get_eq_ok_iff {name : String} : (∃ host, r.get name = .ok host) ↔ Shown localName steps name
  get_eq_error {name : String} (h : ¬ Shown localName steps name) :
    r.get name = .error (.hostNotFound name)
  answered {name : String} {host : Host} (h : r.get name = .ok host) :
    host.name = name ∧ host.Answered (steps.flatMap Step.trace)

theorem History.mem_names_iff {steps : List Step} (h : History (empty localName) steps r)
    (howned : ∀ step ∈ steps, OwnClients step.trace) :
    name ∈ r.names ↔ Shown localName steps name := by
  induction h with
  | nil => simp [names_empty, Shown]
  | snoc h hstep ih =>
      rw [List.forall_mem_append, List.forall_mem_singleton] at howned
      have hlocal := h.localName_eq
      rw [(effect_of_runs hstep).mem_names_iff howned.2, ih howned.1, shown_concat, hlocal]
      rfl

theorem History.nodup_keys {steps : List Step} (h : History (empty localName) steps r) :
    (Map.keys r.hosts).Nodup := by
  induction h with
  | nil => exact List.nodup_nil
  | snoc _ hstep ih => exact (effect_of_runs hstep).nodup_keys ih

/-- A registered host was dialed at some time, and its daemon answered afterwards. -/
theorem History.answered {steps : List Step} (h : History (empty localName) steps r)
    (hget : r.hosts.get? name = some host) :
    host.name = name ∧ host.Answered (steps.flatMap Step.trace) := by
  induction h with
  | nil => cases hget
  | snoc _ hstep ih =>
      rw [List.flatMap_append, List.flatMap_singleton]
      rcases (effect_of_runs hstep).answered_or hget with ⟨hname, hanswered⟩ | hbefore
      · exact ⟨hname, hanswered.mono (List.sublist_append_right _ _)⟩
      · obtain ⟨hname, hanswered⟩ := ih hbefore
        exact ⟨hname, hanswered.mono (List.sublist_append_left _ _)⟩

theorem History.refines {steps : List Step} (h : History (empty localName) steps r)
    (howned : ∀ step ∈ steps, OwnClients step.trace) : Refines localName steps r where
  sorted := pairwise_names h.nodup_keys
  mem_names_iff := h.mem_names_iff howned
  get_eq_ok_iff {name} := by
    simp only [← h.mem_names_iff howned, Registry.mem_names_iff, Registry.get_eq_ok_iff]
  get_eq_error {name} hnot := by
    rw [← h.mem_names_iff howned, Registry.mem_names_iff] at hnot
    rw [get, Option.eq_none_iff_forall_ne_some.2 fun host hhost => hnot ⟨host, hhost⟩]
  answered hget := h.answered (Registry.get_eq_ok_iff.1 hget)

end Registry

end ContainerFleet
