import ContainerFleet.Host.Registry

/-!
What the registry is made of, and what is left of it when hosts come and go. Main statements:
`pairwise_names`, that the names of the hosts are in their order, and which names there are after each
change: `mem_names_replaced`, `mem_names_without` and `mem_names_insertConnected`.
-/

namespace ContainerFleet

namespace Registry

variable {r : Registry} {host : Host} {name other : String} {names : List String}
  {attempts : List (Attempted Host)}

/-- The registry with a host in place of an older one of the same name. -/
def replaced (r : Registry) (host : Host) : Registry :=
  let r := (r.erase host.name).insert host
  if r.default?.isNone || host.name == r.localName then r.elect else r

/-- The registry after an attempt to connect a host. -/
def adopt (r : Registry) : Attempted Host → Registry
  | .done host => r.replaced host
  | _ => r

/-- The registry without a host. -/
def without (r : Registry) (name : String) : Registry :=
  let r := r.erase name
  if r.elected = some name then r.elect else r

/-- An attempt puts a host in place or leaves the registry as it is. -/
theorem adopt_keeps {P : Registry → Prop} {attempt : Attempted Host} (hr : P r)
    (hdone : ∀ host, attempt = .done host → P (r.replaced host)) : P (r.adopt attempt) := by
  cases attempt with
  | done host => exact hdone host rfl
  | failed e => exact hr
  | brokenDown => exact hr

theorem mem_sortNames : name ∈ FleetConfig.sortNames names ↔ name ∈ names :=
  List.mem_mergeSort

theorem pairwise_sortNames (names : List String) :
    (FleetConfig.sortNames names).Pairwise (· ≤ ·) := by
  have hsorted : (FleetConfig.sortNames names).Pairwise fun a b => decide (a ≤ b) = true := by
    apply List.pairwise_mergeSort
    · intro a b c hab hbc
      exact decide_eq_true (String.le_trans (of_decide_eq_true hab) (of_decide_eq_true hbc))
    · intro a b
      simpa using String.le_total a b
  exact hsorted.imp of_decide_eq_true

theorem mem_names_iff : name ∈ r.names ↔ ∃ host, r.hosts.get? name = some host := by
  rw [names, mem_sortNames, Map.mem_keys_iff]

theorem contains_iff : r.hosts.contains name = true ↔ name ∈ r.names := by
  rw [Map.contains, Option.isSome_iff_exists, mem_names_iff]

theorem get_eq_ok_iff : r.get name = .ok host ↔ r.hosts.get? name = some host := by
  unfold get
  cases r.hosts.get? name <;> simp

/-- The names of the hosts are in their order, without repetition. -/
theorem pairwise_names (h : (Map.keys r.hosts).Nodup) : r.names.Pairwise (· < ·) := by
  have hnodup : r.names.Nodup := (List.mergeSort_perm _ _).nodup_iff.2 h
  refine ((pairwise_sortNames _).and hnodup).imp fun {a b} ⟨hle, hne⟩ => ?_
  exact Decidable.byContradiction fun hlt => hne (String.le_antisymm hle (String.not_lt.1 hlt))

theorem hosts_replaced (r : Registry) (host : Host) :
    (r.replaced host).hosts = (r.hosts.erase host.name).insert host.name host := by
  unfold replaced
  dsimp only
  split <;> rfl

theorem localName_replaced (r : Registry) (host : Host) :
    (r.replaced host).localName = r.localName := by
  unfold replaced
  dsimp only
  split <;> rfl

theorem hosts_without (r : Registry) (name : String) :
    (r.without name).hosts = r.hosts.erase name := by
  unfold without
  dsimp only
  split <;> rfl

theorem localName_without (r : Registry) (name : String) :
    (r.without name).localName = r.localName := by
  unfold without
  dsimp only
  split <;> rfl

theorem get?_replaced (r : Registry) (host : Host) (name : String) :
    (r.replaced host).hosts.get? name = if host.name = name then some host else r.hosts.get? name := by
  rw [hosts_replaced, Map.get?_insert, Map.get?_erase]
  split <;> rfl

theorem names_empty (localName : String) : (empty localName).names = [] := by
  simp [names, empty, Map.keys, FleetConfig.sortNames]

theorem names_eq_nil_iff : r.names = [] ↔ r.isEmpty = true := by
  rw [isEmpty, List.isEmpty_iff]
  constructor
  · intro h
    have hlength := congrArg List.length h
    simpa [names, FleetConfig.sortNames, Map.keys] using hlength
  · intro h
    simp [names, h, Map.keys, FleetConfig.sortNames]

theorem mem_names_erase : name ∈ (r.erase other).names ↔ name ∈ r.names ∧ name ≠ other := by
  simp only [mem_names_iff, erase, Map.get?_erase]
  by_cases h : other = name
  · simp [h]
  · simp [h, Ne.symm h]

theorem mem_names_insert : name ∈ (r.insert host).names ↔ name = host.name ∨ name ∈ r.names := by
  simp only [mem_names_iff, insert, Map.get?_insert]
  by_cases h : host.name = name
  · simp [h]
  · simp [h, Ne.symm h]

theorem mem_names_insert_erase :
    name ∈ ((r.erase host.name).insert host).names ↔ name = host.name ∨ name ∈ r.names := by
  rw [mem_names_insert, mem_names_erase]
  by_cases h : name = host.name <;> simp [h]

theorem names_eq_of_hosts_eq {s : Registry} (h : r.hosts = s.hosts) : r.names = s.names := by
  rw [names, names, h]

theorem mem_names_replaced :
    name ∈ (r.replaced host).names ↔ name = host.name ∨ name ∈ r.names := by
  rw [names_eq_of_hosts_eq (s := (r.erase host.name).insert host) (hosts_replaced r host),
    mem_names_insert_erase]

theorem mem_names_without : name ∈ (r.without other).names ↔ name ∈ r.names ∧ name ≠ other := by
  rw [names_eq_of_hosts_eq (s := r.erase other) (hosts_without r other), mem_names_erase]

theorem mem_names_foldl_without :
    name ∈ (names.foldl without r).names ↔ name ∈ r.names ∧ name ∉ names := by
  induction names generalizing r with
  | nil => simp
  | cons other names ih =>
      rw [List.foldl_cons, ih, mem_names_without, List.mem_cons, not_or, and_assoc]

theorem get?_of_foldl_without (h : (names.foldl without r).hosts.get? name = some host) :
    r.hosts.get? name = some host := by
  induction names generalizing r with
  | nil => exact h
  | cons other names ih =>
      have hget := ih h
      rw [hosts_without, Map.get?_erase] at hget
      split at hget
      · cases hget
      · exact hget

theorem insertConnected_cons (r : Registry) (attempt : Attempted Host)
    (attempts : List (Attempted Host)) :
    r.insertConnected (attempt :: attempts) =
      (match attempt with
        | .done host => r.insert host
        | _ => r).insertConnected attempts :=
  rfl

/-- The hosts of a start that could be connected stand in the registry. By induction on the
attempts. -/
theorem mem_names_insertConnected :
    name ∈ (r.insertConnected attempts).names ↔
      (∃ host, .done host ∈ attempts ∧ host.name = name) ∨ name ∈ r.names := by
  induction attempts generalizing r with
  | nil => simp [insertConnected]
  | cons attempt attempts ih =>
      rw [insertConnected_cons, ih]
      cases attempt with
      | done host =>
          rw [mem_names_insert, eq_comm (a := name)]
          simp only [List.mem_cons, Attempted.done.injEq]
          constructor
          · rintro (⟨h, hmem, hname⟩ | hname | hmem)
            · exact .inl ⟨h, .inr hmem, hname⟩
            · exact .inl ⟨host, .inl rfl, hname⟩
            · exact .inr hmem
          · rintro (⟨h, rfl | hmem, hname⟩ | hmem)
            · exact .inr (.inl hname)
            · exact .inl ⟨h, hmem, hname⟩
            · exact .inr (.inr hmem)
      | failed e => simp
      | brokenDown => simp

theorem get?_insertConnected (h : (r.insertConnected attempts).hosts.get? name = some host) :
    (.done host ∈ attempts ∧ host.name = name) ∨ r.hosts.get? name = some host := by
  induction attempts generalizing r with
  | nil => exact .inr h
  | cons attempt attempts ih =>
      rw [insertConnected_cons] at h
      rcases ih h with ⟨hmem, hname⟩ | hget
      · exact .inl ⟨List.mem_cons_of_mem _ hmem, hname⟩
      · cases attempt with
        | done first =>
            have hget : (r.hosts.insert first.name first).get? name = some host := hget
            rw [Map.get?_insert] at hget
            split at hget
            · next hname =>
                cases hget
                exact .inl ⟨List.mem_cons_self, hname⟩
            · exact .inr hget
        | failed e => exact .inr hget
        | brokenDown => exact .inr hget

theorem nodup_keys_insertConnected (h : (Map.keys r.hosts).Nodup)
    (attempts : List (Attempted Host)) :
    (Map.keys (r.insertConnected attempts).hosts).Nodup := by
  induction attempts generalizing r with
  | nil => exact h
  | cons attempt attempts ih =>
      rw [insertConnected_cons]
      cases attempt with
      | done host => exact ih (Map.nodup_keys_insert h host.name host)
      | failed e => exact ih h
      | brokenDown => exact ih h

theorem localName_insertConnected (r : Registry) (attempts : List (Attempted Host)) :
    (r.insertConnected attempts).localName = r.localName := by
  induction attempts generalizing r with
  | nil => rfl
  | cons attempt attempts ih =>
      rw [insertConnected_cons, ih]
      cases attempt <;> rfl

theorem elected_insertConnected (r : Registry) (attempts : List (Attempted Host)) :
    (r.insertConnected attempts).elected = r.elected := by
  induction attempts generalizing r with
  | nil => rfl
  | cons attempt attempts ih =>
      rw [insertConnected_cons, ih]
      cases attempt <;> rfl

theorem hosts_settle (r : Registry) : r.settle.2.hosts = r.hosts := by
  unfold settle
  split <;> rfl

theorem localName_settle (r : Registry) : r.settle.2.localName = r.localName := by
  unfold settle
  split <;> rfl

theorem names_settle (r : Registry) : r.settle.2.names = r.names :=
  names_eq_of_hosts_eq (hosts_settle r)

theorem candidate?_eq_local (h : r.localName ∈ r.names) : r.candidate? = some r.localName := by
  rw [candidate?, if_pos (contains_iff.2 h)]

theorem candidate?_eq_head? (h : r.localName ∉ r.names) : r.candidate? = r.names.head? := by
  rw [candidate?, if_neg (mt contains_iff.1 h)]

/-- There is someone to elect as long as any host is registered. -/
theorem candidate?_eq_none_iff : r.candidate? = none ↔ r.names = [] := by
  by_cases hlocal : r.localName ∈ r.names
  · rw [candidate?_eq_local hlocal]
    exact iff_of_false nofun (List.ne_nil_of_mem hlocal)
  · rw [candidate?_eq_head? hlocal, List.head?_eq_none_iff]

end Registry

end ContainerFleet
