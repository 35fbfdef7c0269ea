import ContainerFleet.Proofs.Replacement.Aftermath

/-!
Whether something runs after a running container was replaced. Main statement:
`serviceRuns_iff`. A replacement that exits as soon as it was started is noticed only when the labels
ask for some uptime; otherwise the container that ran before is given up for it.
-/

namespace ContainerFleet.Replacement

open Program MemoryDaemon

/-- Results after which a service that was running should be running: all but those that say it
could not be looked at, stopped, or started again. -/
def keepsService : Except ReplaceError Replaced → Bool
  | .error (.step .inspect _ _) => false
  | .error (.step .stop _ _) => false
  | .error (.rollbackFailed _ _ _) => false
  | _ => true

/-- One of two containers, an old one and its replacement, is running. -/
def ServiceRuns (d : MemoryDaemon) (oldId newId : String) : Prop :=
  ∃ c ∈ d.containers, c.running = true ∧ (c.id = oldId ∨ c.id = newId)

instance (d : MemoryDaemon) (oldId newId : String) : Decidable (ServiceRuns d oldId newId) :=
  inferInstanceAs (Decidable (∃ c ∈ d.containers, c.running = true ∧ (c.id = oldId ∨ c.id = newId)))

def isRolledBack : Except ReplaceError Replaced → Bool
  | .error (.rolledBack _ _) => true
  | _ => false

variable {d t : MemoryDaemon} {before after : List MemoryContainer} {c n : MemoryContainer}
  {image : String}

theorem Healthy.running_iff (hn : Healthy d c image n) :
    n.running = true ↔ temporaryName c.name ∉ d.crashing := by
  obtain ⟨⟨now, rfl⟩, -⟩ := hn
  change (!d.crashing.contains (temporaryName c.name)) = true ↔ _
  simp

/-- Where the old container is gone or stopped, the service runs exactly when its replacement
does. -/
theorem serviceRuns_iff_running (hd : d.Sound) (hl : d.Locates before c after)
    (hn : n.id = d.nextId)
    (hother : ∀ o ∈ t.containers, o ∈ before ++ after ∨ o.running = false ∨ o = n)
    (hmem : n ∈ t.containers) : ServiceRuns t c.id d.nextId ↔ n.running = true := by
  constructor
  · rintro ⟨o, ho, hrunning, hid⟩
    rcases hother o ho with ho | hstopped | rfl
    · rcases hid with hid | hid
      · exact absurd hid (hl.ne_of_nodup hd.ids_nodup ho)
      · exact absurd hid (hd.unused_nextId.id_ne (hl.mem_of_mem ho))
    · rw [hrunning] at hstopped
      cases hstopped
    · exact hrunning
  · intro hrunning
    exact ⟨n, hmem, hrunning, .inr hn⟩

theorem serviceRuns_append_iff {k : Nat} (hd : d.Sound) (hl : d.Locates before c after)
    (hn : n.id = d.nextId) :
    ServiceRuns (d.holding (before ++ after ++ [n]) k) c.id d.nextId ↔ n.running = true := by
  refine serviceRuns_iff_running hd hl hn ?_ (List.mem_append_right _ (List.mem_singleton_self n))
  intro o ho
  rcases List.mem_append.1 ho with ho | ho
  · exact .inl ho
  · exact .inr (.inr (List.mem_singleton.1 ho))

/-- With a healthy replacement it is the replacement that decides whether the service runs. -/
theorem Healthy.serviceRuns {result : Except ReplaceError Replaced} (hn : Healthy d c image n)
    (hruns : ServiceRuns t c.id d.nextId ↔ n.running = true)
    (hresult : isRolledBack result = false) :
    (ServiceRuns t c.id d.nextId ↔
      isRolledBack result = true ∨ temporaryName c.name ∉ d.crashing) ∧
    ((LabelSet.ofRaw c.labels).requiredUptime? ≠ none → ServiceRuns t c.id d.nextId) := by
  refine ⟨?_, fun hlabel => hruns.2 (hn.2 hlabel)⟩
  rw [hruns, hn.running_iff, hresult]
  simp

theorem Aftermath.serviceRuns {result : Except ReplaceError Replaced} (hd : d.Sound)
    (hl : d.Locates before c after) (hrunning : c.running = true) (hstart : c.name ∉ d.crashing)
    (hkeeps : keepsService result = true) (h : Aftermath d before c after image result t) :
    (ServiceRuns t c.id d.nextId ↔
      isRolledBack result = true ∨ temporaryName c.name ∉ d.crashing) ∧
    ((LabelSet.ofRaw c.labels).requiredUptime? ≠ none → ServiceRuns t c.id d.nextId) := by
  cases h with
  | notInspected key e => cases hkeeps
  | notStopped _ e => cases hkeeps
  | notRestarted _ cause e hleft => cases hkeeps
  | notRemoved hstopped e => exact absurd (hrunning.symm.trans hstopped) Bool.noConfusion
  | notRecreated hstopped e => exact absurd (hrunning.symm.trans hstopped) Bool.noConfusion
  | recreated hstopped => exact absurd (hrunning.symm.trans hstopped) Bool.noConfusion
  | rolledBack _ cause now hleft =>
      suffices hruns : ServiceRuns _ c.id d.nextId from
        ⟨iff_of_true hruns (.inl rfl), fun _ => hruns⟩
      refine ⟨d.started now c, List.mem_append_right _ List.mem_cons_self, ?_, .inl rfl⟩
      simp [started, hstart]
  | oldNotRemoved _ e hn =>
      refine hn.serviceRuns (serviceRuns_iff_running hd hl hn.id_eq ?_ ?_) rfl
      · intro o ho
        simp only [holding, List.mem_append, List.mem_cons, List.not_mem_nil, or_false] at ho ⊢
        rcases ho with ho | rfl | ho | rfl
        · exact .inl (.inl ho)
        · exact .inr (.inl rfl)
        · exact .inl (.inr ho)
        · exact .inr (.inr rfl)
      · simp [holding]
  | notRenamed _ e hn => exact hn.serviceRuns (serviceRuns_append_iff hd hl hn.id_eq) rfl
  | tookOver _ hn =>
      exact hn.serviceRuns
        (serviceRuns_append_iff (n := MemoryContainer.renamed _ c.name) hd hl hn.id_eq) rfl

/-- After a running container was replaced it or its replacement runs, unless the replacement exited
as soon as it was started and its labels ask for no uptime. Every result counts that does not say
that the service is down: a rolled back attempt has started the old container again. -/
theorem serviceRuns_iff {stopTimeout : Duration} {key : String}
    {result : Except ReplaceError Replaced} (hd : d.Sound) (hfind : d.find? key = some c)
    (hrunning : c.running = true) (hstart : c.name ∉ d.crashing)
    (hkeeps : keepsService result = true)
    (h : MemoryRun (replace stopTimeout key image) d result t) :
    (ServiceRuns t c.id d.nextId ↔
      isRolledBack result = true ∨ temporaryName c.name ∉ d.crashing) ∧
    ((LabelSet.ofRaw c.labels).requiredUptime? ≠ none → ServiceRuns t c.id d.nextId) := by
  obtain ⟨before, after, hl⟩ := exists_locates (hd.find? (List.mem_of_find?_eq_some hfind))
  exact (replace_aftermath hl hfind hd.unused_nextId h).serviceRuns hd hl hrunning hstart hkeeps

/-- With an uptime to reach, the exit is noticed and the old container runs again. -/
theorem serviceRuns_exitingDaemon :
    let d := exitingDaemon (web [(Label.uptimeKey, "1s")])
    d.Sound ∧ ServiceRuns ((replace .zero "web" "app:2").runAround d []).2 "c1" "new1" := by
  have hd : (exitingDaemon (web [(Label.uptimeKey, "1s")])).Sound :=
    exitingDaemon_sound rfl rfl (by decide) (by decide)
  exact ⟨hd, (serviceRuns_iff hd rfl rfl (by decide) (by decide +kernel)
    (memoryRun_around (replace .zero "web" "app:2") _ [])).2 (by decide +kernel)⟩

/-- Without one the replacement is taken for healthy, and nothing runs in the end. -/
theorem exists_replaced_not_serviceRuns :
    ∃ d t : MemoryDaemon, d.Sound ∧ d.find? "web" = some (web []) ∧ (web []).running = true ∧
      (web []).name ∉ d.crashing ∧
      MemoryRun (replace .zero "web" "app:2") d (.ok ⟨"c1", "new1", true⟩) t ∧
      ¬ ServiceRuns t "c1" "new1" := by
  have hrun := memoryRun_around (replace .zero "web" "app:2") (exitingDaemon (web [])) []
  have hresult : ((replace .zero "web" "app:2").runAround (exitingDaemon (web [])) []).1 =
      .ok ⟨"c1", "new1", true⟩ := eq_ok_of_toOption (by decide +kernel)
  have hstopped : ¬ ServiceRuns ((replace .zero "web" "app:2").runAround (exitingDaemon (web [])) []).2
      "c1" "new1" := by decide +kernel
  rw [hresult] at hrun
  have hd : (exitingDaemon (web [])).Sound := exitingDaemon_sound rfl rfl (by decide) List.Pairwise.nil
  exact ⟨exitingDaemon (web []), _, hd, rfl, rfl, by decide, hrun, hstopped⟩

end ContainerFleet.Replacement
