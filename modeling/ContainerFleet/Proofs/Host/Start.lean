import ContainerFleet.Proofs.Host.Registered
import ContainerFleet.Proofs.Host.Scripted
import ContainerFleet.Proofs.Map

/-!
The first start of a fleet. Main statement: `registry_refines`, that the registry shows the hosts that
have passed and were not removed since, and that a first start dials the local host and the machines
that are enabled, each of them once.
-/

namespace ContainerFleet

open Program (Runs own converse runs_converse runs_bind_iff runs_pure_iff)

/-- The name that an exchange dials, if it dials one. -/
def dialedName? (x : ConnectionExchange) : Option String :=
  match (x.request : ConnectionRequest) with
  | .dial name _ => some name
  | _ => none

/-- The name to whose machine an exchange looks for a session, if it does. -/
def lookedUpName? (x : ConnectionExchange) : Option String :=
  match (x.request : ConnectionRequest) with
  | .openSession name => some name
  | _ => none

def dialedNames (trace : List ConnectionExchange) : List String :=
  trace.filterMap dialedName?

def lookedUpNames (trace : List ConnectionExchange) : List String :=
  trace.filterMap lookedUpName?

namespace Host

variable {name localName : String} {session : Option Handle} {trace : List ConnectionExchange}
  {attempt : Attempted Host}

theorem filterMap_eq_nil_of_closes {f : ConnectionExchange → Option String}
    (hf : ∀ x, ConnectionRequest.closes x.request = true → f x = none)
    {closing : List ConnectionExchange} (h : Closes closing) : closing.filterMap f = [] :=
  List.filterMap_eq_nil_iff.2 fun x hx => hf x (h x hx)

theorem dialedName?_of_closes (x : ConnectionExchange)
    (h : ConnectionRequest.closes x.request = true) : dialedName? x = none := by
  obtain ⟨q, r⟩ := x
  change ConnectionRequest at q
  cases q <;> first | rfl | cases h

theorem lookedUpName?_of_closes (x : ConnectionExchange)
    (h : ConnectionRequest.closes x.request = true) : lookedUpName? x = none := by
  obtain ⟨q, r⟩ := x
  change ConnectionRequest at q
  cases q <;> first | rfl | cases h

/-- Having a daemon answer dials it once and looks for no session. -/
theorem Verifying.names_eq (hv : Verifying name session trace attempt) :
    dialedNames trace = [name] ∧ lookedUpNames trace = [] := by
  cases hv with
  | undialed => exact ⟨rfl, rfl⟩
  | refused hclosing =>
      have hd := filterMap_eq_nil_of_closes dialedName?_of_closes hclosing
      have hl := filterMap_eq_nil_of_closes lookedUpName?_of_closes hclosing
      exact ⟨congrArg (name :: ·) hd, hl⟩
  | lost => exact ⟨rfl, rfl⟩
  | silent hclosing =>
      have hd := filterMap_eq_nil_of_closes dialedName?_of_closes hclosing
      have hl := filterMap_eq_nil_of_closes lookedUpName?_of_closes hclosing
      exact ⟨congrArg (name :: ·) hd, hl⟩
  | answered => exact ⟨rfl, rfl⟩

/-- A session to the machine of a host was found. -/
def FoundIn (name : String) (trace : List ConnectionExchange) : Prop :=
  ∃ session, lookedUp name (.done (some session)) ∈ trace

theorem Connecting.names_of_local (hc : Connecting localName name trace attempt)
    (hname : name = localName) : dialedNames trace = [name] ∧ lookedUpNames trace = [] := by
  cases hc with
  | locally _ hv => exact hv.names_eq
  | unfound hne => exact absurd hname hne
  | remotely hne => exact absurd hname hne

/-- Connecting a host of another machine looks for a session once, and dials the host once if there
is one. -/
theorem Connecting.names_of_remote (hc : Connecting localName name trace attempt)
    (hname : name ≠ localName) :
    lookedUpNames trace = [name] ∧
      ((FoundIn name trace ∧ dialedNames trace = [name]) ∨
        (¬ FoundIn name trace ∧ dialedNames trace = [])) := by
  cases hc with
  | locally heq => exact absurd heq hname
  | unfound _ hreply =>
      refine ⟨rfl, .inr ⟨?_, rfl⟩⟩
      rintro ⟨session, hmem⟩
      obtain ⟨-, heq⟩ := lookedUp_inj.1 (List.mem_singleton.1 hmem)
      exact hreply session heq.symm
  | remotely _ hv =>
      obtain ⟨hdialed, hlooked⟩ := hv.names_eq
      exact ⟨congrArg (name :: ·) hlooked, .inl ⟨⟨_, List.mem_cons_self⟩, hdialed⟩⟩

/-- Connecting a host asks for no other one. -/
theorem Connecting.eq_of_mem (hc : Connecting localName name trace attempt) {other : String}
    (hother : other ∈ dialedNames trace ∨ other ∈ lookedUpNames trace) : other = name := by
  by_cases hname : name = localName
  · obtain ⟨hdialed, hlooked⟩ := hc.names_of_local hname
    rw [hdialed, hlooked] at hother
    simpa using hother
  · obtain ⟨hlooked, ⟨-, hdialed⟩ | ⟨-, hdialed⟩⟩ := hc.names_of_remote hname <;>
      (rw [hdialed, hlooked] at hother; simpa using hother)

end Host

theorem count_filterMap_cons_of_ne {α : Type} {f : α → Option String} {a : α} {name : String}
    (h : f a ≠ some name) (as : List α) :
    ((a :: as).filterMap f).count name = (as.filterMap f).count name := by
  cases hf : f a with
  | none => rw [List.filterMap_cons_none hf]
  | some other =>
      rw [List.filterMap_cons_some hf, List.count_cons_of_ne]
      rintro rfl
      exact h hf

/-- A name occurs with several parties as often as with one of them, when it occurs with no other
one. -/
theorem count_eq_count_own {α : Type} {f : α → Option String} {tagged : List (Nat × α)} {i : Nat}
    {name : String} (h : ∀ x ∈ tagged, f x.2 = some name → x.1 = i) :
    ((tagged.map Prod.snd).filterMap f).count name = ((own i tagged).filterMap f).count name := by
  induction tagged with
  | nil => rfl
  | cons x tagged ih =>
      obtain ⟨j, a⟩ := x
      rw [List.forall_mem_cons] at h
      rw [List.map_cons]
      by_cases hname : f a = some name
      · obtain rfl : j = i := h.1 hname
        rw [Program.own_cons_self, List.filterMap_cons_some hname, List.filterMap_cons_some hname,
          List.count_cons_self, List.count_cons_self, ih h.2]
      · rw [count_filterMap_cons_of_ne hname, ih h.2]
        by_cases hij : j = i
        · rw [hij, Program.own_cons_self, count_filterMap_cons_of_ne hname]
        · rw [Program.own_cons_of_ne hij]

/-- A machine of the configuration that is to be connected at the start. -/
def FleetConfig.Enables (config : FleetConfig) (name : String) : Prop :=
  ∃ profile, config.machines.get? name = some profile ∧ profile.enabled = true

theorem FleetConfig.mem_enabledMachines_iff {config : FleetConfig} {name : String}
    (h : (Map.keys config.machines).Nodup) :
    name ∈ config.enabledMachines ↔ config.Enables name := by
  rw [enabledMachines, Registry.mem_sortNames, Enables, List.mem_map]
  constructor
  · rintro ⟨⟨key, profile⟩, hmem, rfl⟩
    obtain ⟨hentry, henabled⟩ := List.mem_filter.1 hmem
    exact ⟨profile, (Map.get?_eq_some_iff_mem fun _ _ => Map.eq_of_nodup_keys h).2 hentry, henabled⟩
  · rintro ⟨profile, hget, henabled⟩
    have hentry := (Map.get?_eq_some_iff_mem fun _ _ => Map.eq_of_nodup_keys h).1 hget
    exact ⟨(name, profile), List.mem_filter.2 ⟨hentry, henabled⟩, rfl⟩

theorem FleetConfig.nodup_enabledMachines {config : FleetConfig}
    (h : (Map.keys config.machines).Nodup) : config.enabledMachines.Nodup := by
  rw [enabledMachines, sortNames, (List.mergeSort_perm _ _).nodup_iff]
  exact h.sublist (List.filter_sublist.map _)

namespace Registry

variable {r : Registry} {name : String} {machines : List String}
  {tagged : List (Nat × ConnectionExchange)} {attempts : List (Attempted Host)}

theorem nodup_candidates (h : machines.Nodup) : (r.candidates machines).Nodup := by
  rw [candidates, List.nodup_cons]
  exact ⟨by simp, h.filter _⟩

/-- What is asked for a host in a start is asked by the party that connects it. -/
theorem Starts.index_eq (h : r.Starts machines tagged attempts) (hmachines : machines.Nodup) {i : Nat}
    (hi : (r.candidates machines)[i]? = some name) {x : Nat × ConnectionExchange} (hx : x ∈ tagged)
    (hname : dialedName? x.2 = some name ∨ lookedUpName? x.2 = some name) : x.1 = i := by
  obtain ⟨other, attempt, hother, -, hc⟩ := h.exists_of_mem hx
  have hmem : x.2 ∈ own x.1 tagged := Program.mem_own.2 hx
  obtain rfl : name = other := by
    refine hc.eq_of_mem (hname.imp ?_ ?_) <;>
      exact fun hname => List.mem_filterMap.2 ⟨x.2, hmem, hname⟩
  have hlength := (List.getElem?_eq_some_iff.1 hother).1
  exact (List.getElem?_inj hlength (nodup_candidates hmachines)).1 (hother.trans hi.symm)

/-- A start asks for no hosts but those that it connects, and looks for no session to the local
one. -/
theorem Starts.mem_of_mem_names (h : r.Starts machines tagged attempts)
    (hname : name ∈ dialedNames (tagged.map Prod.snd) ∨ name ∈ lookedUpNames (tagged.map Prod.snd)) :
    name ∈ r.candidates machines ∧
      (name ∈ lookedUpNames (tagged.map Prod.snd) → name ≠ r.localName) := by
  have hparty {f : ConnectionExchange → Option String}
      (hmem : name ∈ (tagged.map Prod.snd).filterMap f) :
      ∃ x ∈ tagged, name ∈ (own x.1 tagged).filterMap f := by
    obtain ⟨y, hy, hfound⟩ := List.mem_filterMap.1 hmem
    obtain ⟨x, hx, rfl⟩ := List.mem_map.1 hy
    exact ⟨x, hx, List.mem_filterMap.2 ⟨x.2, Program.mem_own.2 hx, hfound⟩⟩
  constructor
  · obtain ⟨x, hx, hmem⟩ : ∃ x ∈ tagged,
        name ∈ dialedNames (own x.1 tagged) ∨ name ∈ lookedUpNames (own x.1 tagged) := by
      rcases hname with hname | hname
      · obtain ⟨x, hx, hmem⟩ := hparty hname
        exact ⟨x, hx, .inl hmem⟩
      · obtain ⟨x, hx, hmem⟩ := hparty hname
        exact ⟨x, hx, .inr hmem⟩
    obtain ⟨other, attempt, hother, -, hc⟩ := h.exists_of_mem hx
    rw [hc.eq_of_mem hmem]
    exact List.mem_of_getElem? hother
  · intro hlooked hlocal
    obtain ⟨x, hx, hmem⟩ := hparty hlooked
    obtain ⟨other, attempt, hother, -, hc⟩ := h.exists_of_mem hx
    have hsame := hc.eq_of_mem (.inr hmem)
    change name ∈ lookedUpNames (own x.1 tagged) at hmem
    rw [(hc.names_of_local (hsame.symm.trans hlocal)).2] at hmem
    cases hmem

theorem Starts.count_dialed (h : r.Starts machines tagged attempts) (hmachines : machines.Nodup)
    {i : Nat} (hi : (r.candidates machines)[i]? = some name) :
    (dialedNames (tagged.map Prod.snd)).count name = (dialedNames (own i tagged)).count name :=
  count_eq_count_own fun _ hx hname => h.index_eq hmachines hi hx (.inl hname)

theorem Starts.count_lookedUp (h : r.Starts machines tagged attempts) (hmachines : machines.Nodup)
    {i : Nat} (hi : (r.candidates machines)[i]? = some name) :
    (lookedUpNames (tagged.map Prod.snd)).count name = (lookedUpNames (own i tagged)).count name :=
  count_eq_count_own fun _ hx hname => h.index_eq hmachines hi hx (.inr hname)

theorem Starts.foundIn_iff (h : r.Starts machines tagged attempts) (hmachines : machines.Nodup)
    {i : Nat} (hi : (r.candidates machines)[i]? = some name) :
    Host.FoundIn name (tagged.map Prod.snd) ↔ Host.FoundIn name (own i tagged) := by
  constructor
  · rintro ⟨session, hmem⟩
    obtain ⟨⟨j, x⟩, hx, rfl⟩ := List.mem_map.1 hmem
    obtain rfl : j = i := h.index_eq hmachines hi hx (.inr rfl)
    exact ⟨session, Program.mem_own.2 hx⟩
  · rintro ⟨session, hmem⟩
    exact ⟨session, Program.own_sublist.subset hmem⟩

/-- What a first start does: it connects the local host and the machines that are enabled, each of
them once. -/
structure FreshStart (config : FleetConfig) (trace : List ConnectionExchange)
    (result : Except RegistryError String) (f : Fleet) : Prop where
  mem_names_iff {name : String} :
    name ∈ f.registry.names ↔ (name = config.localHostName ∨ config.Enables name) ∧
      Host.PassedIn config.localHostName name trace
  count_local : (dialedNames trace).count config.localHostName = 1
  of_mem_dialedNames {name : String} (h : name ∈ dialedNames trace) :
    name = config.localHostName ∨ config.Enables name
  of_mem_lookedUpNames {name : String} (h : name ∈ lookedUpNames trace) :
    name ≠ config.localHostName ∧ config.Enables name
  count_lookedUp {name : String} (hname : name ≠ config.localHostName) (h : config.Enables name) :
    (lookedUpNames trace).count name = 1
  count_of_found {name : String} (hname : name ≠ config.localHostName) (h : config.Enables name)
    (hfound : Host.FoundIn name trace) : (dialedNames trace).count name = 1
  not_mem_of_unfound {name : String} (hname : name ≠ config.localHostName)
    (hfound : ¬ Host.FoundIn name trace) : name ∉ dialedNames trace
  fails_iff : (∃ e, result = .error e) ↔ ∀ name, name = config.localHostName ∨ config.Enables name →
    ¬ Host.PassedIn config.localHostName name trace

theorem exists_error_settle_iff : (∃ e, r.settle.1 = .error e) ↔ r.names = [] := by
  rw [← candidate?_eq_none_iff]
  unfold settle
  cases r.candidate? with
  | some name => simp
  | none => simp

theorem Starts.freshStart {config : FleetConfig} (hkeys : (Map.keys config.machines).Nodup)
    (h : (empty config.localHostName).Starts config.enabledMachines tagged attempts)
    (howned : OwnClients (tagged.map Prod.snd)) :
    FreshStart config (tagged.map Prod.snd)
      ((empty config.localHostName).insertConnected attempts).settle.1
      ⟨config, ((empty config.localHostName).insertConnected attempts).settle.2⟩ := by
  have hmachines := FleetConfig.nodup_enabledMachines hkeys
  have hcandidate {name : String} :
      name ∈ (empty config.localHostName).candidates config.enabledMachines ↔
        name = config.localHostName ∨ config.Enables name := by
    rw [mem_candidates, FleetConfig.mem_enabledMachines_iff hkeys]
    rfl
  have hindex {name : String} (hname : name = config.localHostName ∨ config.Enables name) :
      ∃ i : Nat, ((empty config.localHostName).candidates config.enabledMachines)[i]? = some name :=
    List.mem_iff_getElem?.1 (hcandidate.2 hname)
  have hnames {name : String} :
      name ∈ ((empty config.localHostName).insertConnected attempts).names ↔
        (name = config.localHostName ∨ config.Enables name) ∧
          Host.PassedIn config.localHostName name (tagged.map Prod.snd) := by
    have heffect : Effect (empty config.localHostName) (.bootstrap [] config.enabledMachines) _ _ :=
      .bootstrapped h
    rw [← names_settle, heffect.mem_names_iff howned, names_empty, ← hcandidate, mem_candidates,
      or_iff_right fun hbefore => List.not_mem_nil hbefore.1]
    exact passes_start_iff
  refine
    { mem_names_iff := by rw [names_settle]; exact hnames
      count_local := ?_
      of_mem_dialedNames := fun hname => hcandidate.1 (h.mem_of_mem_names (.inl hname)).1
      of_mem_lookedUpNames := fun {name} hname => ?_
      count_lookedUp := fun {name} hne henabled => ?_
      count_of_found := fun {name} hne henabled hfound => ?_
      not_mem_of_unfound := fun {name} hne hfound hmem => ?_
      fails_iff := ?_ }
  · obtain ⟨i, hi⟩ := hindex (.inl rfl)
    obtain ⟨attempt, -, hc⟩ := h.connecting hi
    rw [h.count_dialed hmachines hi, (hc.names_of_local rfl).1, List.count_singleton_self]
  · obtain ⟨hmem, hlocal⟩ := h.mem_of_mem_names (.inr hname)
    exact ⟨hlocal hname, (hcandidate.1 hmem).resolve_left (hlocal hname)⟩
  · obtain ⟨i, hi⟩ := hindex (.inr henabled)
    obtain ⟨attempt, -, hc⟩ := h.connecting hi
    rw [h.count_lookedUp hmachines hi, (hc.names_of_remote hne).1, List.count_singleton_self]
  · obtain ⟨i, hi⟩ := hindex (.inr henabled)
    obtain ⟨attempt, -, hc⟩ := h.connecting hi
    rw [h.foundIn_iff hmachines hi] at hfound
    rcases (hc.names_of_remote hne).2 with ⟨-, hdialed⟩ | ⟨hnot, -⟩
    · rw [h.count_dialed hmachines hi, hdialed, List.count_singleton_self]
    · exact absurd hfound hnot
  · obtain ⟨i, hi⟩ := List.mem_iff_getElem?.1 (h.mem_of_mem_names (.inl hmem)).1
    obtain ⟨attempt, -, hc⟩ := h.connecting hi
    rw [h.foundIn_iff hmachines hi] at hfound
    have hcount := List.count_pos_iff.2 hmem
    rcases (hc.names_of_remote hne).2 with ⟨hown, -⟩ | ⟨-, hdialed⟩
    · exact hfound hown
    · rw [h.count_dialed hmachines hi, hdialed, List.count_nil] at hcount
      exact Nat.lt_irrefl 0 hcount
  · rw [exists_error_settle_iff, List.eq_nil_iff_forall_not_mem]
    simp only [hnames, not_and]

/-- The registry of hosts is a map of verified hosts. Whatever is done with it, and however sessions,
dials and probes turn out, its names are those of the hosts that passed and were not removed since, and
each host has answered after it was dialed; a first start connects what the configuration says. -/
theorem registry_refines :
    (∀ {localName : String} {steps : List Step} {r : Registry},
      History (empty localName) steps r → (∀ step ∈ steps, OwnClients step.trace) →
        Refines localName steps r) ∧
    ∀ {config : FleetConfig} {turns : List Nat} {trace : List ConnectionExchange}
      {result : Except RegistryError String} {f : Fleet},
      (Map.keys config.machines).Nodup → OwnClients trace →
        Runs ((Fleet.ofConfig config).bootstrap turns) trace (result, f) →
          FreshStart config trace result f := by
  refine ⟨History.refines, fun {config turns trace result f} hkeys howned hruns => ?_⟩
  obtain ⟨t, u, ⟨started, registry⟩, rfl, ht, hend⟩ := runs_bind_iff.1 hruns
  obtain ⟨rfl, hended⟩ := runs_pure_iff.1 hend
  obtain ⟨tagged, attempts, rfl, hstarts, hsettle⟩ := of_runs_bootstrap ht
  rw [List.append_nil] at howned ⊢
  have hresult : result = ((empty config.localHostName).insertConnected attempts).settle.1 :=
    (congrArg Prod.fst hended).trans (congrArg Prod.fst hsettle)
  have hregistry : registry = ((empty config.localHostName).insertConnected attempts).settle.2 :=
    congrArg Prod.snd hsettle
  have hfleet : f = ⟨config, registry⟩ := congrArg Prod.snd hended
  rw [hresult, hfleet, hregistry]
  exact hstarts.freshStart hkeys howned

/-- A configuration with three machines, of which the last one is not enabled. -/
def machineConfig : FleetConfig :=
  let profile (enabled : Bool) : MachineProfile := ⟨"10.0.0.7", "root", "/key", none, enabled, none⟩
  { FleetConfig.default with
    machines := [("edge-1", profile true), ("edge-2", profile true), ("edge-4", profile false)] }

theorem enabledMachines_machineConfig : machineConfig.enabledMachines = ["edge-1", "edge-2"] :=
  List.mergeSort_of_pairwise (by decide +kernel)

/-- Two histories of an unsteady fleet: a changeover, and the first start of a configuration. -/
theorem registry_refines_unsteady :
    (Refines "local" changedOver.1 changedOver.2.1 ∧ changedOver.2.1.names = ["edge-2"]) ∧
      let first := converse (I := connectionInterface) ConnectionWorld.handle
        ((Fleet.ofConfig machineConfig).bootstrap [1, 0]) (.start .unsteady)
      FreshStart machineConfig first.1 first.2.1.1 first.2.1.2 ∧
        first.2.1.2.registry.names = ["edge-1"] := by
  have hplayed := ownClients_play Operation.changeover (empty "local") (.start .unsteady)
  have hruns := runs_converse (I := connectionInterface) ConnectionWorld.handle
    ((Fleet.ofConfig machineConfig).bootstrap [1, 0]) (.start .unsteady)
  refine ⟨⟨registry_refines.1 history_changedOver hplayed, by decide +kernel⟩,
    registry_refines.2 (by decide) (ownClients_converse _ _) hruns, ?_⟩
  rw [Fleet.bootstrap, Fleet.ofConfig, enabledMachines_machineConfig]
  decide +kernel

end Registry

end ContainerFleet
