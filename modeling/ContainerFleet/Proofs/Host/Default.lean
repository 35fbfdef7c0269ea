import ContainerFleet.Host.Fleet
import ContainerFleet.Proofs.Host.Scripted

/-!
The default host. Main statement: `history_default`, that after any operations it is the local host
when that is connected, some connected host otherwise, and changes for a few reasons only.
-/

namespace ContainerFleet

open Program (Runs converse runs_converse)

namespace Registry

variable {r r' : Registry} {name localName : String} {host : Host} {op : Operation}
  {trace : List ConnectionExchange} {attempts : List (Attempted Host)}

/-- The elected host is connected, there is one as long as any host is connected, and it is the local
one if that is connected. -/
structure Settled (r : Registry) : Prop where
  registered {name : String} (h : r.elected = some name) : name ∈ r.names
  exists_elected (h : r.names ≠ []) : ∃ name, r.elected = some name
  isLocal (h : r.localName ∈ r.names) : r.elected = some r.localName

theorem settled_empty (localName : String) : (empty localName).Settled where
  registered h := by cases h
  exists_elected h := absurd (names_empty localName) h
  isLocal h := by
    rw [names_empty] at h
    cases h

theorem Settled.default?_eq (h : r.Settled) : r.default? = r.elected := by
  cases helected : r.elected with
  | none => rw [default?, helected, Option.filter_none]
  | some name =>
      rw [default?, helected, Option.filter_some, if_pos (contains_iff.2 (h.registered helected))]

/-- An election settles every registry. -/
theorem settled_elect (r : Registry) : r.elect.Settled where
  registered {name} h := by
    change name ∈ r.names
    change r.candidate? = some name at h
    by_cases hlocal : r.localName ∈ r.names
    · rw [candidate?_eq_local hlocal] at h
      exact Option.some.inj h ▸ hlocal
    · rw [candidate?_eq_head? hlocal] at h
      exact List.mem_of_head? h
  exists_elected h := by
    change ∃ name, r.candidate? = some name
    by_cases hlocal : r.localName ∈ r.names
    · exact ⟨_, candidate?_eq_local hlocal⟩
    · rw [candidate?_eq_head? hlocal]
      exact ⟨_, List.head?_eq_some_head h⟩
  isLocal h := candidate?_eq_local h

theorem Settled.replaced (h : r.Settled) (host : Host) : (r.replaced host).Settled := by
  unfold Registry.replaced
  dsimp only
  split
  · exact settled_elect _
  · next hkeep =>
      obtain ⟨hdefault, hlocal⟩ : ((r.erase host.name).insert host).default? ≠ none ∧
          host.name ≠ r.localName := by
        simpa [insert, erase] using hkeep
      refine ⟨fun {name} hname => ?_, fun _ => ?_, fun hmem => ?_⟩
      · exact mem_names_insert_erase.2 (.inr (h.registered hname))
      · obtain ⟨name, hname⟩ := Option.ne_none_iff_exists'.1 hdefault
        exact ⟨name, (Option.filter_eq_some_iff.1 hname).1⟩
      · rcases mem_names_insert_erase.1 hmem with heq | hmem
        · exact absurd heq.symm hlocal
        · exact h.isLocal hmem

/-- Connecting a host that is not the local one does not change who is elected, if anyone is. -/
theorem Settled.elected_replaced (h : r.Settled) (hlocal : host.name ≠ r.localName)
    (hname : r.elected = some name) : (r.replaced host).elected = some name := by
  have hmem : name ∈ ((r.erase host.name).insert host).names :=
    mem_names_insert_erase.2 (.inr (h.registered hname))
  have hdefault : ((r.erase host.name).insert host).default? = some name :=
    Option.filter_eq_some_iff.2 ⟨hname, contains_iff.2 hmem⟩
  have hkeep : ¬ (((r.erase host.name).insert host).default?.isNone ||
      host.name == ((r.erase host.name).insert host).localName) = true := by
    rw [hdefault]
    simpa [insert, erase] using hlocal
  unfold Registry.replaced
  dsimp only
  rw [if_neg hkeep]
  exact hname

theorem Settled.without (h : r.Settled) (name : String) : (r.without name).Settled := by
  unfold Registry.without
  dsimp only
  split
  · exact settled_elect _
  · next hkeep =>
      refine ⟨fun {other} hother => ?_, fun hnames => ?_, fun hmem => ?_⟩
      · refine mem_names_erase.2 ⟨h.registered hother, ?_⟩
        rintro rfl
        exact hkeep hother
      · obtain ⟨other, hother⟩ := List.exists_mem_of_ne_nil _ hnames
        exact h.exists_elected (List.ne_nil_of_mem (mem_names_erase.1 hother).1)
      · exact h.isLocal (mem_names_erase.1 hmem).1

/-- Only the deletion of the elected host changes who is elected. -/
theorem elected_without (h : r.elected ≠ some name) : (r.without name).elected = r.elected := by
  unfold Registry.without
  dsimp only
  rw [if_neg (show (r.erase name).elected ≠ some name from h)]
  rfl

theorem Settled.settle (h : r.Settled) (attempts : List (Attempted Host)) :
    (r.insertConnected attempts).settle.2.Settled := by
  unfold Registry.settle
  split
  · exact settled_elect _
  · next hnone =>
      have hnames := candidate?_eq_none_iff.1 hnone
      have hempty {name : String} : name ∉ (r.insertConnected attempts).names := by simp [hnames]
      refine ⟨fun {name} hname => ?_, fun hne => absurd hnames hne, fun hmem => absurd hmem hempty⟩
      change (r.insertConnected attempts).elected = some name at hname
      rw [elected_insertConnected] at hname
      exact absurd (mem_names_insertConnected.2 (.inr (h.registered hname))) hempty

/-- Each operation leaves the registry settled. -/
theorem Effect.settled (h : r.Effect op trace r') (hr : r.Settled) : r'.Settled :=
  h.keeps hr hr.settle (fun _ host hs => hs.replaced host) fun _ name hs => hs.without name

theorem History.settled {steps : List Step} (h : History (empty localName) steps r) : r.Settled := by
  induction h with
  | nil => exact settled_empty localName
  | snoc _ hstep ih => exact (effect_of_runs hstep).settled ih

/-- Why the default host may be another one after an operation. -/
inductive Changes (localName : String) (r : Registry) (op : Operation) (r' : Registry) : Prop where
  | fromNone (h : r.default? = none)
  | removed {name : String} (h : r.default? = some name) (hop : op.Removes name)
  | gotLocal (h : localName ∉ r.names) (h' : localName ∈ r'.names)
  | restarted {turns : List Nat} {machines : List String} (hop : op = .bootstrap turns machines)

/-- Connecting a host makes another one the default only when there was none, or when it is the
local one and was not connected before. -/
theorem Settled.changes_adopt (hr : r.Settled) (attempt : Attempted Host)
    (hchanged : (r.adopt attempt).default? ≠ r.default?) :
    Changes r.localName r op (r.adopt attempt) := by
  rcases attempt with host | e | -
  · have hafter := hr.replaced host
    cases hdefault : r.default? with
    | none => exact .fromNone hdefault
    | some name =>
        by_cases hlocal : host.name = r.localName
        · have hmem : r.localName ∈ (r.replaced host).names :=
            mem_names_replaced.2 (.inl hlocal.symm)
          refine .gotLocal (fun hbefore => hchanged ?_) hmem
          have hlast := hafter.isLocal (by rwa [localName_replaced])
          rw [localName_replaced] at hlast
          rw [adopt, hafter.default?_eq, hr.default?_eq, hlast, hr.isLocal hbefore]
        · refine absurd ?_ hchanged
          rw [hr.default?_eq] at hdefault
          rw [adopt, hafter.default?_eq, hr.default?_eq, hr.elected_replaced hlocal hdefault, hdefault]
  · exact absurd rfl hchanged
  · exact absurd rfl hchanged

/-- The default host changes for a few reasons only. -/
theorem Effect.changes (h : r.Effect op trace r') (hr : r.Settled)
    (hchanged : r'.default? ≠ r.default?) : Changes r.localName r op r' := by
  cases h with
  | bootstrapped => exact .restarted rfl
  | added => exact hr.changes_adopt _ hchanged
  | connected => exact hr.changes_adopt _ hchanged
  | @deleted _ name _ hop =>
      by_cases hname : r.elected = some name
      · exact .removed (hr.default?_eq.trans hname) (.inl hop)
      · refine absurd ?_ hchanged
        rw [(hr.without name).default?_eq, hr.default?_eq, elected_without hname]
  | shutDown =>
      cases hdefault : r.default? with
      | none => exact .fromNone hdefault
      | some name => exact .removed hdefault (.inr rfl)

theorem Settled.eq_none_iff (h : r.Settled) : r.default? = none ↔ r.isEmpty = true := by
  rw [h.default?_eq, ← names_eq_nil_iff]
  constructor
  · intro hnone
    refine Decidable.byContradiction fun hne => ?_
    obtain ⟨name, hname⟩ := h.exists_elected hne
    cases hnone.symm.trans hname
  · intro hnames
    refine Option.eq_none_iff_forall_ne_some.2 fun name hname => ?_
    have hmem := h.registered hname
    rw [hnames] at hmem
    cases hmem

theorem elected_settle (h : r.names ≠ []) : r.settle.2.elected = r.settle.2.candidate? := by
  unfold settle
  split
  · rfl
  · next hnone => exact absurd (candidate?_eq_none_iff.1 hnone) h

/-- A start after which the local host is not connected elects the first of the names. -/
theorem Effect.smallest {turns : List Nat} {machines : List String} {other : String}
    (h : r.Effect (.bootstrap turns machines) trace r') (hr : r.Settled)
    (hlocal : r'.localName ∉ r'.names) (hname : r'.default? = some name)
    (hother : other ∈ r'.names) : name ≤ other := by
  have hr' := h.settled hr
  obtain ⟨tagged, attempts, rfl, -, rfl⟩ := h.of_bootstrap
  have hne : (r.insertConnected attempts).names ≠ [] := by
    rw [← names_settle]
    exact List.ne_nil_of_mem hother
  rw [hr'.default?_eq, elected_settle hne, candidate?_eq_head? hlocal] at hname
  obtain ⟨rest, hrest⟩ := List.head?_eq_some_iff.1 hname
  have hsorted := pairwise_sortNames (Map.keys (r.insertConnected attempts).settle.2.hosts)
  change (r.insertConnected attempts).settle.2.names.Pairwise (· ≤ ·) at hsorted
  rw [hrest] at hsorted hother
  rcases List.mem_cons.1 hother with rfl | hmem
  · exact String.le_refl _
  · exact List.rel_of_pairwise_cons hsorted hmem

theorem exists_defaultService {f : Fleet} (h : f.registry.Settled)
    (hne : f.registry.isEmpty = false) :
    ∃ name found, f.registry.default? = some name ∧ f.defaultService = .ok found ∧
      f.service name = .ok found := by
  cases hdefault : f.registry.default? with
  | none =>
      rw [h.eq_none_iff, hne] at hdefault
      cases hdefault
  | some name =>
      have hmem : name ∈ f.registry.names := by
        rw [h.default?_eq] at hdefault
        exact h.registered hdefault
      obtain ⟨host, hhost⟩ := mem_names_iff.1 hmem
      have hservice : f.service name = .ok (host, f.serviceOf host) := by
        rw [Fleet.service, get_eq_ok_iff.2 hhost]
        rfl
      exact ⟨name, _, rfl, by rw [Fleet.defaultService, hdefault]; exact hservice, hservice⟩

/-- What can be said of the default host after an operation. -/
structure DefaultAfter (localName : String) (r : Registry) (op : Operation) (r' : Registry) :
    Prop where
  isLocal (h : localName ∈ r'.names) : r'.default? = some localName
  eq_none_iff : r'.default? = none ↔ r'.isEmpty = true
  registered {name : String} (h : r'.default? = some name) : name ∈ r'.names
  changes (h : r'.default? ≠ r.default?) : Changes localName r op r'
  smallest {turns : List Nat} {machines : List String} {name other : String}
    (hop : op = .bootstrap turns machines) (hlocal : localName ∉ r'.names)
    (hname : r'.default? = some name) (hother : other ∈ r'.names) : name ≤ other
  exists_service {f : Fleet} (hf : f.registry = r') (hne : r'.isEmpty = false) :
    ∃ name found, r'.default? = some name ∧ f.defaultService = .ok found ∧ f.service name = .ok found

/-- After any operations, each of which may have failed anywhere, the default host is what it should
be. -/
theorem history_default (localName : String) {steps : List Step} {step : Step}
    (h : History (empty localName) steps r)
    (hstep : Runs (step.operation.perform r) step.trace r') :
    DefaultAfter localName r step.operation r' := by
  have heffect := effect_of_runs hstep
  have hr := h.settled
  have hr' := heffect.settled hr
  have hlocal : r.localName = localName := h.localName_eq
  have hlocal' : r'.localName = localName := heffect.localName_eq.trans hlocal
  refine ⟨fun hmem => ?_, hr'.eq_none_iff, fun hname => ?_, fun hchanged => ?_, ?_, ?_⟩
  · rw [hr'.default?_eq, hr'.isLocal (by rwa [hlocal']), hlocal']
  · exact hr'.registered (hr'.default?_eq.symm.trans hname)
  · exact hlocal ▸ heffect.changes hr hchanged
  · intro turns machines name other hop hnone hname hother
    rw [hop] at heffect
    exact heffect.smallest hr (by rwa [hlocal']) hname hother
  · rintro f rfl hne
    exact exists_defaultService hr' hne

/-- The local host takes over as soon as it is connected. -/
theorem history_default_changedOver :
    changedOver.2.1.default? = some "edge-2" ∧
      let last := converse (I := connectionInterface) ConnectionWorld.handle
        ((Operation.toggle "local" true).perform changedOver.2.1) changedOver.2.2
      DefaultAfter "local" changedOver.2.1 (.toggle "local" true) last.2.1 ∧
        last.2.1.default? = some "local" := by
  refine ⟨by decide +kernel, ?_⟩
  intro last
  let step : Step := ⟨.toggle "local" true, last.1⟩
  have hstep : Runs (step.operation.perform changedOver.2.1) step.trace last.2.1 :=
    runs_converse (I := connectionInterface) ConnectionWorld.handle _ changedOver.2.2
  have hafter := history_default "local" history_changedOver hstep
  exact ⟨hafter, hafter.isLocal (contains_iff.1 (by decide +kernel))⟩

end Registry

end ContainerFleet
