import ContainerFleet.Proofs.Label

/-!
The kinds of labels. A label of some kind is read from the values of that kind's own keys, so the
labels of a container are what is read kind by kind. Main statements: `labels_ofRaw`, and
`requiredUptime?_ofRaw` and `ping?_ofRaw_eq_some_iff`, what a health check finds in them.
-/

namespace ContainerFleet

namespace Label

inductive Kind where
  | selfContainer
  | updateDisabled
  | optIn
  | healthUptime
  | healthPing
deriving DecidableEq, Repr

def kind : Label → Kind
  | .selfContainer => .selfContainer
  | .updateDisabled => .updateDisabled
  | .optIn => .optIn
  | .healthUptime _ => .healthUptime
  | .healthPing _ _ => .healthPing

namespace Kind

/-- All kinds, in the order in which labels are kept. -/
def all : List Kind :=
  [selfContainer, updateDisabled, optIn, healthUptime, healthPing]

/-- The keys whose values make up a label of this kind. -/
def keys : Kind → List String
  | selfContainer => [selfKey]
  | updateDisabled => [disableKey]
  | optIn => [optInKey]
  | healthUptime => [uptimeKey]
  | healthPing => [pingKey, pingDelayKey]

/-- The label of this kind that raw values stand for. -/
def read? (raw : Map String String) : Kind → Option Label
  | selfContainer => LabelSet.selfContainer? raw
  | updateDisabled => LabelSet.updateDisabled? raw
  | optIn => LabelSet.optIn? raw
  | healthUptime => LabelSet.healthUptime? raw
  | healthPing => LabelSet.healthPing? raw

theorem mem_all (kind : Kind) : kind ∈ all := by
  cases kind <;> decide

/-- No key belongs to two kinds. -/
theorem eq_of_mem_keys {a b : Kind} {key : String} (ha : key ∈ a.keys) (hb : key ∈ b.keys) :
    a = b := by
  have hall : ∀ a ∈ all, ∀ key ∈ a.keys, ∀ b ∈ all, key ∈ b.keys → a = b := by decide
  exact hall a (mem_all a) key ha b (mem_all b) hb

variable {raw other : Map String String} {kind : Kind} {label : Label}

theorem kind_of_read? (h : kind.read? raw = some label) : label.kind = kind := by
  cases kind with
  | selfContainer =>
      simp only [read?, LabelSet.selfContainer?, Option.ite_none_right_eq_some] at h
      rw [← Option.some.inj h.2]
      rfl
  | updateDisabled =>
      simp only [read?, LabelSet.updateDisabled?, Option.ite_none_right_eq_some] at h
      rw [← Option.some.inj h.2]
      rfl
  | optIn =>
      simp only [read?, LabelSet.optIn?, Option.ite_none_right_eq_some] at h
      rw [← Option.some.inj h.2]
      rfl
  | healthUptime =>
      obtain ⟨required, rfl⟩ := LabelSet.eq_of_healthUptime? h
      rfl
  | healthPing =>
      obtain ⟨url, delay, rfl⟩ := LabelSet.eq_of_healthPing? h
      rfl

/-- What is read depends on the values of the kind's own keys only. -/
theorem read?_congr (h : ∀ key ∈ kind.keys, raw.get? key = other.get? key) :
    kind.read? raw = kind.read? other := by
  cases kind with
  | selfContainer => simp only [read?, LabelSet.selfContainer?, h selfKey List.mem_cons_self]
  | updateDisabled => simp only [read?, LabelSet.updateDisabled?, h disableKey List.mem_cons_self]
  | optIn =>
      simp only [read?, LabelSet.optIn?]
      rw [Map.contains, Map.contains, h optInKey List.mem_cons_self]
  | healthUptime => simp only [read?, LabelSet.healthUptime?, h uptimeKey List.mem_cons_self]
  | healthPing =>
      simp only [read?, LabelSet.healthPing?, h pingKey List.mem_cons_self,
        h pingDelayKey (List.mem_cons_of_mem _ List.mem_cons_self)]

/-- Without a value for one of its keys there is no label of a kind. -/
theorem read?_eq_none {key : String} (hkey : key ∈ kind.keys) (h : raw.get? key = none) :
    kind.read? raw = none := by
  cases kind with
  | selfContainer =>
      obtain rfl := List.mem_singleton.1 hkey
      simp [read?, LabelSet.selfContainer?, h]
  | updateDisabled =>
      obtain rfl := List.mem_singleton.1 hkey
      simp [read?, LabelSet.updateDisabled?, h]
  | optIn =>
      obtain rfl := List.mem_singleton.1 hkey
      simp [read?, LabelSet.optIn?, Map.contains, h]
  | healthUptime =>
      obtain rfl := List.mem_singleton.1 hkey
      simp [read?, LabelSet.healthUptime?, h]
  | healthPing =>
      rcases List.mem_cons.1 hkey with rfl | hkey
      · simp [read?, LabelSet.healthPing?, h]
      · obtain rfl := List.mem_singleton.1 hkey
        simp [read?, LabelSet.healthPing?, h]

end Kind

end Label

namespace LabelSet

open Label

variable {raw : Map String String} {β : Type}

theorem labels_ofRaw (raw : Map String String) :
    (ofRaw raw).labels = Kind.all.filterMap (Kind.read? raw) := by
  change (Kind.all.map (Kind.read? raw)).filterMap id = _
  rw [List.filterMap_map]
  rfl

/-- What is looked for among the labels of one kind is found in the label of that kind. -/
theorem findSome?_labels (kind : Kind) {find : Label → Option β}
    (h : ∀ label : Label, label.kind ≠ kind → find label = none) :
    (ofRaw raw).labels.findSome? find = (kind.read? raw).bind find := by
  have hother (k : Kind) (hk : k ≠ kind) : (k.read? raw).bind find = none := by
    cases hread : k.read? raw with
    | none => rfl
    | some label => exact h label (Kind.kind_of_read? hread ▸ hk)
  rw [labels_ofRaw, ← List.head?_filterMap, List.filterMap_filterMap, List.head?_filterMap]
  cases kind <;>
    simp only [Kind.all, List.findSome?_cons, List.findSome?_nil, hother, ne_eq, reduceCtorEq,
      not_false_eq_true] <;>
    cases (Kind.read? raw _).bind find <;> rfl

theorem requiredUptime?_ofRaw (raw : Map String String) :
    (ofRaw raw).requiredUptime? = (raw.get? uptimeKey).bind Duration.ofText? := by
  refine (findSome?_labels .healthUptime fun label h => ?_).trans ?_
  · cases label <;> first | rfl | exact absurd rfl h
  rw [Kind.read?, healthUptime?]
  cases raw.get? uptimeKey with
  | none => rfl
  | some value =>
      simp only [bind, pure, Option.bind_some]
      cases Duration.ofText? value <;> rfl

theorem ping?_ofRaw_eq_some_iff {url : String} {delay : Duration} :
    (ofRaw raw).ping? = some (url, delay) ↔
      ∃ address time, raw.get? pingKey = some address ∧ raw.get? pingDelayKey = some time ∧
        httpUrl? address = some url ∧ Duration.ofText? time = some delay := by
  have hping : (ofRaw raw).ping? = _ := findSome?_labels .healthPing fun label h => by
    cases label <;> first | rfl | exact absurd rfl h
  rw [hping, Kind.read?]
  simp only [healthPing?, bind, pure, Option.bind_eq_some_iff, Option.some.injEq]
  constructor
  · rintro ⟨_, ⟨address, haddress, _, hurl, time, htime, _, hdelay, rfl⟩, heq⟩
    obtain ⟨rfl, rfl⟩ := Prod.mk.inj (Option.some.inj heq)
    exact ⟨address, time, haddress, htime, hurl, hdelay⟩
  · rintro ⟨address, time, haddress, htime, hurl, hdelay⟩
    exact ⟨_, ⟨address, haddress, url, hurl, time, htime, delay, hdelay, rfl⟩, rfl⟩

end LabelSet

end ContainerFleet
