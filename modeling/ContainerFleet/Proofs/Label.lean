import ContainerFleet.Update.Classification

/-!
What the labels of a container mean for its updates, in terms of their raw texts. Main statements:
`classify_eq_deferSelf_iff` and `classify_eq_eligible_iff`, when a container has to wait and when it
is updated.
-/

namespace ContainerFleet

namespace LabelSet

open Label

variable {raw : Map String String} {label : Label}

theorem mem_ofRaw_iff :
    label ∈ (ofRaw raw).labels ↔
      selfContainer? raw = some label ∨ updateDisabled? raw = some label ∨
        optIn? raw = some label ∨ healthUptime? raw = some label ∨
        healthPing? raw = some label := by
  simp [ofRaw, eq_comm]

theorem eq_of_healthUptime? (h : healthUptime? raw = some label) :
    ∃ required, label = .healthUptime required := by
  simp only [healthUptime?, bind, Option.bind_eq_some_iff, pure, Option.some.injEq] at h
  obtain ⟨_, _, required, _, rfl⟩ := h
  exact ⟨required, rfl⟩

theorem eq_of_healthPing? (h : healthPing? raw = some label) :
    ∃ url delay, label = .healthPing url delay := by
  simp only [healthPing?, bind, Option.bind_eq_some_iff, pure, Option.some.injEq] at h
  obtain ⟨_, _, url, _, _, _, delay, _, rfl⟩ := h
  exact ⟨url, delay, rfl⟩

/-- A label without a duration is there when its own raw value says so. -/
theorem mem_ofRaw_iff_of_switch
    (h : label = .selfContainer ∨ label = .updateDisabled ∨ label = .optIn) :
    label ∈ (ofRaw raw).labels ↔
      selfContainer? raw = some label ∨ updateDisabled? raw = some label ∨
        optIn? raw = some label := by
  have huptime : healthUptime? raw ≠ some label := by
    intro hlabel
    obtain ⟨required, rfl⟩ := eq_of_healthUptime? hlabel
    simp at h
  have hping : healthPing? raw ≠ some label := by
    intro hlabel
    obtain ⟨url, delay, rfl⟩ := eq_of_healthPing? hlabel
    simp at h
  simp [mem_ofRaw_iff, huptime, hping]

theorem isSelfContainer_ofRaw_iff :
    (ofRaw raw).isSelfContainer = true ↔ ∃ value, raw.get? selfKey = some value ∧ isTrue value := by
  rw [isSelfContainer, List.contains_iff_mem, mem_ofRaw_iff_of_switch (.inl rfl)]
  simp [selfContainer?, updateDisabled?, optIn?, Option.any_eq_true]

theorem isUpdateDisabled_ofRaw_iff :
    (ofRaw raw).isUpdateDisabled = true ↔
      ∃ value, raw.get? disableKey = some value ∧ isTrue value := by
  rw [isUpdateDisabled, List.contains_iff_mem, mem_ofRaw_iff_of_switch (.inr (.inl rfl))]
  simp [selfContainer?, updateDisabled?, optIn?, Option.any_eq_true]

theorem isOptedIn_ofRaw_iff : (ofRaw raw).isOptedIn = true ↔ raw.get? optInKey ≠ none := by
  rw [isOptedIn, List.contains_iff_mem, mem_ofRaw_iff_of_switch (.inr (.inr rfl)),
    ← Option.isSome_iff_ne_none]
  change _ ↔ raw.contains optInKey = true
  simp [selfContainer?, updateDisabled?, optIn?]

end LabelSet

namespace ContainerRecord

/-- The program's own container, on its own host, where the policy does not allow to replace it. -/
def IsOwn (c : ContainerRecord) (policy : UpdatePolicy) (onLocalHost : Bool) : Prop :=
  (∃ value, c.labels.get? Label.selfKey = some value ∧ Label.isTrue value) ∧
    onLocalHost = true ∧ policy.allowSelfUpdate = false

/-- A container that is not opted in where the policy asks for that. -/
def IsLeftOut (c : ContainerRecord) (policy : UpdatePolicy) : Prop :=
  policy.optInOnly = true ∧ c.labels.get? Label.optInKey = none

/-- A container with updates switched off where the policy does not force them. -/
def IsSwitchedOff (c : ContainerRecord) (policy : UpdatePolicy) : Prop :=
  (∃ value, c.labels.get? Label.disableKey = some value ∧ Label.isTrue value) ∧
    policy.forceUpdate = false

/-- A container that its labels keep from being updated. -/
def IsGuarded (c : ContainerRecord) (policy : UpdatePolicy) (onLocalHost : Bool) : Prop :=
  c.IsOwn policy onLocalHost ∨ c.IsLeftOut policy ∨ c.IsSwitchedOff policy

variable {c : ContainerRecord} {policy : UpdatePolicy} {onLocalHost : Bool}

theorem isOwn_iff :
    c.IsOwn policy onLocalHost ↔
      (c.updateLabels.isSelfContainer && onLocalHost && !policy.allowSelfUpdate) = true := by
  simp [IsOwn, updateLabels, LabelSet.isSelfContainer_ofRaw_iff, and_assoc]

theorem isLeftOut_iff :
    c.IsLeftOut policy ↔ (policy.optInOnly && !c.updateLabels.isOptedIn) = true := by
  simp [IsLeftOut, updateLabels, ← Bool.not_eq_true, LabelSet.isOptedIn_ofRaw_iff]

theorem isSwitchedOff_iff :
    c.IsSwitchedOff policy ↔ (c.updateLabels.isUpdateDisabled && !policy.forceUpdate) = true := by
  simp [IsSwitchedOff, updateLabels, LabelSet.isUpdateDisabled_ofRaw_iff]

theorem classify_eq_deferSelf_iff :
    c.classify policy onLocalHost = .deferSelf ↔ c.IsOwn policy onLocalHost := by
  rw [isOwn_iff, classify, LabelSet.classify]
  split
  · next h => exact iff_of_true rfl h
  · next h =>
      refine iff_of_false ?_ h
      split
      · exact Classification.noConfusion
      · split <;> exact Classification.noConfusion

theorem classify_eq_eligible_iff :
    c.classify policy onLocalHost = .eligible ↔ ¬ c.IsGuarded policy onLocalHost := by
  rw [IsGuarded, isOwn_iff, isLeftOut_iff, isSwitchedOff_iff, classify, LabelSet.classify]
  split
  · next h => simp [h]
  · next hown =>
      split
      · next h => simp [h]
      · next hleft =>
          split
          · next h => simp [h]
          · next hoff => exact iff_of_true rfl (by rintro (h | h | h) <;> contradiction)

instance decidableIsGuarded (c : ContainerRecord) (policy : UpdatePolicy) (onLocalHost : Bool) :
    Decidable (c.IsGuarded policy onLocalHost) :=
  decidable_of_iff (c.classify policy onLocalHost ≠ .eligible)
    (by rw [ne_eq, classify_eq_eligible_iff, Classical.not_not])

end ContainerRecord

end ContainerFleet
