import ContainerFleet.Proofs.Replacement.Aftermath

/-!
Who carries the name of a container after it was replaced. Main statement: `nameKept_iff`. Between
the removal of the old container and the call that gives its name to the new one nobody carries it,
and nothing is undone when that call fails.
-/

namespace ContainerFleet.Replacement

open Program MemoryDaemon

/-- Results that say that the old container was removed and its name not given on. -/
def losesName : Except ReplaceError Replaced → Bool
  | .error (.step .create _ _) => true
  | .error (.step .rename _ _) => true
  | _ => false

/-- Exactly one container carries the name of `c`: `c` itself, running or not, or the container that
was created from its settings with another image. -/
def NameKept (d : MemoryDaemon) (c : MemoryContainer) (image : String) (t : MemoryDaemon) : Prop :=
  ∃ o, t.containers.filter (fun o => o.name == c.name) = [o] ∧
    (o.Same c ∨ (o.id = d.nextId ∧ o.image = image ∧ o.settings = c.spec.withImage image))

def NameLost (c : MemoryContainer) (t : MemoryDaemon) : Prop :=
  t.containers.filter (fun o => o.name == c.name) = []

variable {d t : MemoryDaemon} {before after : List MemoryContainer} {c n : MemoryContainer}
  {image : String}

theorem NameLost.not_nameKept (h : NameLost c t) : ¬ NameKept d c image t := by
  rintro ⟨o, ho, -⟩
  rw [h] at ho
  cases ho

theorem temporaryName_ne (name : String) : temporaryName name ≠ name := by
  intro h
  have hlength := congrArg String.length h
  rw [temporaryName, String.length_append] at hlength
  have hsuffix : nameSuffix.length = 15 := by decide
  omega

/-- Among the containers beside `c` none has its name. -/
theorem filter_name_append (hd : d.Sound) (hl : d.Locates before c after)
    (middle left : List MemoryContainer) :
    (before ++ (middle ++ (after ++ left))).filter (fun o => o.name == c.name) =
      (middle ++ left).filter (fun o => o.name == c.name) := by
  have hother : ∀ o ∈ before ++ after, ¬ (o.name == c.name) = true := by
    intro o ho
    simpa using hl.ne_of_nodup hd.names_nodup ho
  have hbefore := List.filter_eq_nil_iff.2 fun o ho => hother o (List.mem_append_left after ho)
  have hafter := List.filter_eq_nil_iff.2 fun o ho => hother o (List.mem_append_right before ho)
  simp only [List.filter_append, hbefore, hafter, List.nil_append]

theorem filter_name_singleton {o : MemoryContainer} (h : o.name = c.name) :
    [o].filter (fun o => o.name == c.name) = [o] := by
  simp [h]

theorem filter_name_temporary {left : List MemoryContainer}
    (h : ∀ o ∈ left, o.name = temporaryName c.name) :
    left.filter (fun o => o.name == c.name) = [] := by
  apply List.filter_eq_nil_iff.2
  intro o ho
  simp [h o ho, temporaryName_ne]

theorem Leftover.name_eq {created : Nat} {left : List MemoryContainer}
    (h : Leftover d (d.replacementOf (temporaryName c.name) c image) created left) :
    ∀ o ∈ left, o.name = temporaryName c.name := by
  intro o ho
  cases h with
  | notCreated => cases ho
  | removed => cases ho
  | created =>
      cases List.mem_singleton.1 ho
      rfl
  | started now =>
      cases List.mem_singleton.1 ho
      rfl

theorem Healthy.name_eq (hn : Healthy d c image n) : n.name = temporaryName c.name := by
  obtain ⟨⟨now, rfl⟩, -⟩ := hn
  rfl

/-- Where the old container is still there, beside what has a temporary name, it keeps its name. -/
theorem nameKept_of_same (hd : d.Sound) (hl : d.Locates before c after) {o : MemoryContainer}
    (ho : o.Same c) {left : List MemoryContainer} {k : Nat}
    (hleft : ∀ m ∈ left, m.name = temporaryName c.name) :
    NameKept d c image (d.holding (before ++ o :: (after ++ left)) k) := by
  refine ⟨o, ?_, .inl ho⟩
  change (before ++ ([o] ++ (after ++ left))).filter _ = [o]
  rw [filter_name_append hd hl, List.filter_append, filter_name_singleton ho.name_eq,
    filter_name_temporary hleft, List.append_nil]

/-- Where the old container is gone, its name is its replacement's if that has it. -/
theorem nameKept_of_replacement (hd : d.Sound) (hl : d.Locates before c after) {k : Nat}
    (hname : n.name = c.name) (hid : n.id = d.nextId) (himage : n.image = image)
    (hsettings : n.settings = c.spec.withImage image) :
    NameKept d c image (d.holding (before ++ after ++ [n]) k) := by
  refine ⟨n, ?_, .inr ⟨hid, himage, hsettings⟩⟩
  rw [holding, List.append_assoc]
  change (before ++ ([] ++ (after ++ [n]))).filter _ = [n]
  rw [filter_name_append hd hl, List.nil_append, filter_name_singleton hname]

theorem nameLost_of_left (hd : d.Sound) (hl : d.Locates before c after) {k : Nat}
    {left : List MemoryContainer} (hleft : ∀ m ∈ left, m.name = temporaryName c.name) :
    NameLost c (d.holding (before ++ after ++ left) k) := by
  rw [NameLost, holding, List.append_assoc]
  change (before ++ ([] ++ (after ++ left))).filter _ = []
  rw [filter_name_append hd hl, List.nil_append, filter_name_temporary hleft]

theorem Aftermath.name {result : Except ReplaceError Replaced} (hd : d.Sound)
    (hl : d.Locates before c after) (h : Aftermath d before c after image result t) :
    (losesName result = false ∧ NameKept d c image t) ∨
      (losesName result = true ∧ NameLost c t) := by
  have hunchanged : NameKept d c image d := by
    have hkept : NameKept d c image (d.holding (before ++ c :: (after ++ [])) d.created) :=
      nameKept_of_same hd hl (o := c) rfl (by simp)
    rwa [List.append_nil, ← hl.containers_eq] at hkept
  cases h with
  | notInspected key e => exact .inl ⟨rfl, hunchanged⟩
  | notStopped _ e => exact .inl ⟨rfl, hunchanged⟩
  | notRemoved _ e => exact .inl ⟨rfl, hunchanged⟩
  | notRecreated _ e =>
      have hlost : NameLost c (d.holding (before ++ after ++ []) d.created) :=
        nameLost_of_left hd hl (by simp)
      rw [List.append_nil] at hlost
      exact .inr ⟨rfl, hlost⟩
  | recreated _ =>
      exact .inl ⟨rfl, nameKept_of_replacement hd hl rfl rfl (replacementOf_image _ _ _) rfl⟩
  | rolledBack _ cause now hleft =>
      exact .inl ⟨rfl, nameKept_of_same hd hl (MemoryContainer.same_started d now c) hleft.name_eq⟩
  | notRestarted _ cause e hleft =>
      exact .inl ⟨rfl, nameKept_of_same hd hl (MemoryContainer.same_stopped c) hleft.name_eq⟩
  | oldNotRemoved _ e hn =>
      refine .inl ⟨rfl, nameKept_of_same hd hl (MemoryContainer.same_stopped c) ?_⟩
      intro m hm
      rw [List.mem_singleton.1 hm, hn.name_eq]
  | notRenamed _ e hn =>
      refine .inr ⟨rfl, nameLost_of_left hd hl ?_⟩
      intro m hm
      rw [List.mem_singleton.1 hm, hn.name_eq]
  | tookOver _ hn =>
      obtain ⟨⟨now, rfl⟩, -⟩ := hn
      have himage := replacementOf_image (d := d) (temporaryName c.name) c image
      exact .inl ⟨rfl, nameKept_of_replacement hd hl rfl rfl himage rfl⟩

/-- After an attempt to replace a container exactly one container carries its name, either itself
or its replacement, unless the result says that the replacement could not be created after the old
container was removed or could not be given its name. Then no container carries it. -/
theorem nameKept_iff {stopTimeout : Duration} {key : String}
    {result : Except ReplaceError Replaced} (hd : d.Sound) (hfind : d.find? key = some c)
    (h : MemoryRun (replace stopTimeout key image) d result t) :
    (NameKept d c image t ↔ losesName result = false) ∧
      (NameLost c t ↔ losesName result = true) := by
  obtain ⟨before, after, hl⟩ := exists_locates (hd.find? (List.mem_of_find?_eq_some hfind))
  have hend := (replace_aftermath hl hfind hd.unused_nextId h).name hd hl
  rcases hend with ⟨hresult, hkept⟩ | ⟨hresult, hlost⟩
  · have hnot : ¬ NameLost c t := fun hlost => hlost.not_nameKept hkept
    simp [hresult, hkept, hnot]
  · simp [hresult, hlost, hlost.not_nameKept]

/-- The replacement exits, its removal fails too, and the old container is started again: it still
has its name, and what is left of the replacement has another one. -/
theorem nameKept_exitingDaemon :
    let c := web [(Label.uptimeKey, "1s")]
    let d := exitingDaemon c
    d.Sound ∧ NameKept d c "app:2" ((replace .zero "web" "app:2").runAround d
      [⟨.exact "remove:new1", .unexpected "busy", 0, none⟩]).2 := by
  have hd : (exitingDaemon (web [(Label.uptimeKey, "1s")])).Sound :=
    exitingDaemon_sound rfl rfl (by decide) (by decide)
  exact ⟨hd, (nameKept_iff hd rfl (memoryRun_around (replace .zero "web" "app:2") _ _)).1.2
    (by decide +kernel)⟩

/-- A container that does not run is removed first, and nothing brings it back when it cannot be
created anew. The replacement of one that runs may keep its temporary name. -/
theorem exists_not_nameKept :
    (∃ d t c result, d.Sound ∧ d.find? "web" = some c ∧ c.running = false ∧
      MemoryRun (replace .zero "web" "app:2") d result t ∧ ¬ NameKept d c "app:2" t) ∧
    (∃ d t c result, d.Sound ∧ d.find? "web" = some c ∧ c.running = true ∧
      MemoryRun (replace .zero "web" "app:2") d result t ∧ ¬ NameKept d c "app:2" t) := by
  constructor
  · have hd : (exitingDaemon (web []).stopped).Sound :=
      exitingDaemon_sound rfl rfl (by decide) (by decide)
    have hlost : NameLost (web []) ((replace .zero "web" "app:2").runAround
        (exitingDaemon (web []).stopped) [⟨.startingWith "create:", .unexpected "full", 0, none⟩]).2 :=
      List.isEmpty_iff.1 (by decide +kernel)
    exact ⟨exitingDaemon (web []).stopped, _, (web []).stopped, _, hd, rfl, rfl,
      memoryRun_around (replace .zero "web" "app:2") _ _, NameLost.not_nameKept hlost⟩
  · have hd : (exitingDaemon (web [])).Sound := exitingDaemon_sound rfl rfl (by decide) (by decide)
    have hlost : NameLost (web []) ((replace .zero "web" "app:2").runAround
        (exitingDaemon (web [])) [⟨.startingWith "rename:", .unexpected "busy", 0, none⟩]).2 :=
      List.isEmpty_iff.1 (by decide +kernel)
    exact ⟨exitingDaemon (web []), _, web [], _, hd, rfl, rfl,
      memoryRun_around (replace .zero "web" "app:2") _ _, NameLost.not_nameKept hlost⟩

end ContainerFleet.Replacement
