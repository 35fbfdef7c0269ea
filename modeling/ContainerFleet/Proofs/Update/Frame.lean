import ContainerFleet.Proofs.Replacement.Aftermath
import ContainerFleet.Proofs.Update.Staleness

/-!
What an update of one container leaves alone. `Touches` says which containers may differ between two
daemons, and `Holds` that the containers whose turn has not come yet are found as they were listed.
Main statement: `Reshaped.holds`, that the replacement of a container does not come between the others
and their ids.
-/

namespace ContainerFleet

namespace MemoryDaemon

/-- Between two daemons only these containers were touched: others are as they were, new ones have
new ids, and no settled reference got another image. -/
structure Touches (d : MemoryDaemon) (ids : List String) (t : MemoryDaemon) : Prop where
  kept : ∀ o ∈ d.containers, o.id ∉ ids → o ∈ t.containers
  known : ∀ o ∈ t.containers, o ∈ d.containers ∨ o.id ∈ ids ∨ ∃ n, d.created < n ∧ o.id = idOf n
  created_le : d.created ≤ t.created
  keepsSettled : d.KeepsSettled t
  registry_eq : t.registry = d.registry
  crashing_eq : t.crashing = d.crashing

theorem Touches.refl (d : MemoryDaemon) (ids : List String) : d.Touches ids d :=
  ⟨fun _ ho _ => ho, fun _ ho => .inl ho, Nat.le_refl _, fun _ _ => rfl, rfl, rfl⟩

theorem Touches.trans {d u t : MemoryDaemon} {ids more : List String} (h : d.Touches ids u)
    (h' : u.Touches more t) : d.Touches (ids ++ more) t where
  kept o ho hid := by
    rw [List.mem_append, not_or] at hid
    exact h'.kept o (h.kept o ho hid.1) hid.2
  known o ho := by
    rcases h'.known o ho with ho | hid | ⟨n, hn, hid⟩
    · rcases h.known o ho with ho | hid | hnew
      · exact .inl ho
      · exact .inr (.inl (List.mem_append_left more hid))
      · exact .inr (.inr hnew)
    · exact .inr (.inl (List.mem_append_right ids hid))
    · exact .inr (.inr ⟨n, Nat.lt_of_le_of_lt h.created_le hn, hid⟩)
  created_le := Nat.le_trans h.created_le h'.created_le
  keepsSettled reference hsettled := by
    have himage := h.keepsSettled reference hsettled
    rw [h'.keepsSettled reference (hsettled.of_eq himage h.registry_eq), himage]
  registry_eq := h'.registry_eq.trans h.registry_eq
  crashing_eq := h'.crashing_eq.trans h.crashing_eq

/-- Some containers of a daemon are found under their ids as they are given here, and the ids that
it will hand out are unused. -/
structure Holds (d : MemoryDaemon) (cs : List MemoryContainer) : Prop where
  find?_eq : ∀ c ∈ cs, d.find? c.id = some c
  nodup : (cs.map MemoryContainer.id).Nodup
  ids_nodup : (d.containers.map MemoryContainer.id).Nodup
  unused_idOf : ∀ n, d.created < n → d.Unused (idOf n)
  labels_nodup : ∀ c ∈ cs, (Map.keys c.labels).Nodup

theorem Sound.holds {d : MemoryDaemon} (h : d.Sound) : d.Holds d.containers :=
  ⟨fun _ hc => h.find? hc, h.ids_nodup, h.ids_nodup, h.unused_idOf, h.labels_nodup⟩

namespace Holds

variable {d : MemoryDaemon} {c : MemoryContainer} {cs : List MemoryContainer}

theorem tail (h : d.Holds (c :: cs)) : d.Holds cs where
  find?_eq o ho := h.find?_eq o (List.mem_cons_of_mem c ho)
  nodup := (List.nodup_cons.1 h.nodup).2
  ids_nodup := h.ids_nodup
  unused_idOf := h.unused_idOf
  labels_nodup o ho := h.labels_nodup o (List.mem_cons_of_mem c ho)

theorem mem (h : d.Holds cs) (hc : c ∈ cs) : c ∈ d.containers :=
  List.mem_of_find?_eq_some (h.find?_eq c hc)

theorem ne_idOf (h : d.Holds cs) (hc : c ∈ cs) {n : Nat} (hn : d.created < n) : c.id ≠ idOf n :=
  (h.unused_idOf n hn).id_ne (h.mem hc)

theorem exists_locates (h : d.Holds (c :: cs)) : ∃ before after, d.Locates before c after :=
  MemoryDaemon.exists_locates (h.find?_eq c List.mem_cons_self)

theorem unused_nextId (h : d.Holds cs) : d.Unused d.nextId :=
  h.unused_idOf _ (Nat.lt_succ_self _)

end Holds

/-- What a search found is found too when another element was replaced by one that the search sees
in the same way, or removed, and more was added behind. -/
theorem find?_replaced {p : MemoryContainer → Bool} {before after tail : List MemoryContainer}
    {c found : MemoryContainer} {middle : Option MemoryContainer}
    (h : (before ++ c :: after).find? p = some found) (hne : found ≠ c)
    (hmiddle : ∀ o ∈ middle, p o = p c) :
    (before ++ middle.toList ++ after ++ tail).find? p = some found := by
  rw [List.find?_append] at h
  rw [List.find?_append, List.find?_append, List.find?_append]
  cases hbefore : before.find? p with
  | some o =>
      rw [hbefore, Option.some_or] at h
      simp [h]
  | none =>
      rw [hbefore, Option.none_or] at h
      have hc : p c = false := by
        rw [← Bool.not_eq_true]
        intro hc
        rw [List.find?_cons_of_pos hc] at h
        exact hne (Option.some.inj h).symm
      rw [List.find?_cons_of_neg (by simp [hc])] at h
      have hnone : middle.toList.find? p = none := by
        refine List.find?_eq_none.2 fun o ho => ?_
        rw [hmiddle o (Option.mem_toList.1 ho), hc]
        exact Bool.false_ne_true
      simp [hnone, h]

/-- What was created for a container, once so many were created: it has a new id, and the name of
the container or its temporary one. -/
structure CreatedFor (d : MemoryDaemon) (c n : MemoryContainer) (created : Nat) : Prop where
  id_eq : n.id = d.nextId
  name_eq : n.name = c.name ∨ n.name = Replacement.temporaryName c.name
  lt_created : d.created < created

/-- A daemon in which one container was left, changed or removed, and at most one was created. -/
structure Reshaped (d : MemoryDaemon) (before : List MemoryContainer) (c : MemoryContainer)
    (after : List MemoryContainer) (middle created : Option MemoryContainer) (t : MemoryDaemon) :
    Prop where
  containers_eq : t.containers = before ++ middle.toList ++ after ++ created.toList
  same : ∀ o ∈ middle, o.Same c
  createdFor : ∀ n ∈ created, d.CreatedFor c n t.created
  created_le : d.created ≤ t.created
  images_eq : t.images = d.images
  registry_eq : t.registry = d.registry
  crashing_eq : t.crashing = d.crashing

namespace Reshaped

variable {d t : MemoryDaemon} {before after cs : List MemoryContainer} {c : MemoryContainer}
  {middle created : Option MemoryContainer}

theorem mem_iff (h : d.Reshaped before c after middle created t) {o : MemoryContainer} :
    o ∈ t.containers ↔ o ∈ before ++ after ∨ o ∈ middle ∨ o ∈ created := by
  rw [h.containers_eq]
  simp only [List.mem_append, Option.mem_toList]
  constructor
  · rintro (((ho | ho) | ho) | ho)
    · exact .inl (.inl ho)
    · exact .inr (.inl ho)
    · exact .inl (.inr ho)
    · exact .inr (.inr ho)
  · rintro ((ho | ho) | ho | ho)
    · exact .inl (.inl (.inl ho))
    · exact .inl (.inr ho)
    · exact .inl (.inl (.inr ho))
    · exact .inr ho

theorem touches (h : d.Reshaped before c after middle created t) (hl : d.Locates before c after) :
    d.Touches [c.id] t where
  kept o ho hid := by
    rw [hl.containers_eq] at ho
    rw [List.mem_singleton] at hid
    rcases List.mem_append.1 ho with ho | ho
    · exact h.mem_iff.2 (.inl (List.mem_append_left after ho))
    · rcases List.mem_cons.1 ho with rfl | ho
      · exact absurd rfl hid
      · exact h.mem_iff.2 (.inl (List.mem_append_right before ho))
  known o ho := by
    rcases h.mem_iff.1 ho with ho | ho | ho
    · exact .inl (hl.mem_of_mem ho)
    · exact .inr (.inl (List.mem_singleton.2 (h.same o ho).id_eq))
    · exact .inr (.inr ⟨d.created + 1, Nat.lt_succ_self _, (h.createdFor o ho).id_eq⟩)
  created_le := h.created_le
  keepsSettled reference _ := by rw [h.images_eq]
  registry_eq := h.registry_eq
  crashing_eq := h.crashing_eq

/-- The ids of the containers are those from before and at most one that was unused. -/
theorem ids_nodup (h : d.Reshaped before c after middle created t) (hl : d.Locates before c after)
    (hids : (d.containers.map MemoryContainer.id).Nodup) (hfresh : d.Unused d.nextId) :
    (t.containers.map MemoryContainer.id).Nodup := by
  have hnew : (d.containers.map MemoryContainer.id ++ [d.nextId]).Nodup := by
    refine List.nodup_append.2 ⟨hids, List.pairwise_singleton _ _, ?_⟩
    intro id hid next hnext
    obtain ⟨o, ho, rfl⟩ := List.mem_map.1 hid
    rw [List.mem_singleton.1 hnext]
    exact hfresh.id_ne ho
  have hmiddle : (middle.toList.map MemoryContainer.id).Sublist [c.id] := by
    cases middle with
    | none => exact List.nil_sublist _
    | some o => simp [(h.same o rfl).id_eq]
  have hcreated : (created.toList.map MemoryContainer.id).Sublist [d.nextId] := by
    cases created with
    | none => exact List.nil_sublist _
    | some n => simp [(h.createdFor n rfl).id_eq]
  refine List.Nodup.sublist ?_ hnew
  rw [h.containers_eq, hl.containers_eq, List.append_cons before]
  simp only [List.map_append]
  exact (((List.Sublist.refl _).append hmiddle).append (List.Sublist.refl _)).append hcreated

theorem unused_idOf (h : d.Reshaped before c after middle created t)
    (hl : d.Locates before c after) (hunused : ∀ n, d.created < n → d.Unused (idOf n)) {n : Nat}
    (hn : t.created < n) : t.Unused (idOf n) := by
  have hunused := hunused n (Nat.lt_of_le_of_lt h.created_le hn)
  intro o ho
  rcases h.mem_iff.1 ho with ho | ho | ho
  · exact hunused o (hl.mem_of_mem ho)
  · have hsame := h.same o ho
    rw [MemoryContainer.isCalled, hsame.id_eq, hsame.name_eq]
    exact hunused c hl.mem
  · refine MemoryContainer.isCalled_eq_false_iff.2 ⟨?_, ?_⟩
    · rw [(h.createdFor o ho).id_eq]
      intro heq
      have hnumber : d.created + 1 = n := idOf_injective heq
      have hlt := (h.createdFor o ho).lt_created
      omega
    · rcases (h.createdFor o ho).name_eq with hname | hname
      · rw [hname]
        exact hunused.name_ne hl.mem
      · rw [hname]
        exact temporaryName_ne_idOf c.name n

/-- The containers whose turn comes later are found as before. The name of what was created may be
the id of one of them, but it comes last in the list. -/
theorem holds (h : d.Reshaped before c after middle created t) (hl : d.Locates before c after)
    (hd : d.Holds (c :: cs)) : t.Holds cs where
  find?_eq o ho := by
    have hfind := hd.find?_eq o (List.mem_cons_of_mem c ho)
    have hne : o ≠ c := by
      rintro rfl
      exact (List.nodup_cons.1 hd.nodup).1 (List.mem_map_of_mem ho)
    rw [MemoryDaemon.find?, hl.containers_eq] at hfind
    rw [MemoryDaemon.find?, h.containers_eq]
    refine find?_replaced hfind hne fun m hm => ?_
    rw [MemoryContainer.isCalled, MemoryContainer.isCalled, (h.same m hm).id_eq,
      (h.same m hm).name_eq]
  nodup := hd.tail.nodup
  ids_nodup := h.ids_nodup hl hd.ids_nodup hd.unused_nextId
  unused_idOf _ hn := h.unused_idOf hl hd.unused_idOf hn
  labels_nodup := hd.tail.labels_nodup

end Reshaped

end MemoryDaemon

namespace Replacement

open MemoryDaemon

variable {d t : MemoryDaemon} {before after : List MemoryContainer} {c : MemoryContainer}
  {image : String}

theorem reshaped_holding {middle created : Option MemoryContainer}
    {containers : List MemoryContainer} {k : Nat} (hsame : ∀ o ∈ middle, o.Same c)
    (hcreated : ∀ n ∈ created, d.CreatedFor c n k) (hk : d.created ≤ k)
    (hmem : containers = before ++ middle.toList ++ after ++ created.toList) :
    d.Reshaped before c after middle created (d.holding containers k) :=
  ⟨hmem, hsame, hcreated, hk, rfl, rfl, rfl⟩

theorem reshaped_self (hl : d.Locates before c after) :
    d.Reshaped before c after (some c) none d := by
  refine reshaped_holding (k := d.created) ?_ ?_ (Nat.le_refl _) ?_
  · intro o ho
    cases ho
    rfl
  · intro n hn
    cases hn
  · rw [hl.containers_eq]
    simp

theorem Healthy.createdFor {n : MemoryContainer} (hn : Healthy d c image n) :
    d.CreatedFor c n (d.created + 1) := by
  obtain ⟨⟨now, rfl⟩, -⟩ := hn
  exact ⟨rfl, .inr rfl, Nat.lt_succ_self _⟩

theorem Leftover.exists_createdFor {created : Nat} {left : List MemoryContainer}
    (h : Leftover d (d.replacementOf (temporaryName c.name) c image) created left) :
    d.created ≤ created ∧
      ∃ m : Option MemoryContainer, left = m.toList ∧ ∀ n ∈ m, d.CreatedFor c n created := by
  cases h with
  | notCreated => exact ⟨Nat.le_refl _, none, rfl, fun n hn => nomatch hn⟩
  | removed => exact ⟨Nat.le_succ _, none, rfl, fun n hn => nomatch hn⟩
  | created =>
      refine ⟨Nat.le_succ _, some _, rfl, fun n hn => ?_⟩
      cases hn
      exact ⟨rfl, .inr rfl, Nat.lt_succ_self _⟩
  | started now =>
      refine ⟨Nat.le_succ _, some _, rfl, fun n hn => ?_⟩
      cases hn
      exact ⟨rfl, .inr rfl, Nat.lt_succ_self _⟩

/-- Beside a container that is still there. -/
theorem exists_reshaped_same {o : MemoryContainer} (ho : o.Same c) {left : List MemoryContainer}
    {k : Nat} (hk : d.created ≤ k)
    (hleft : ∃ m : Option MemoryContainer, left = m.toList ∧ ∀ n ∈ m, d.CreatedFor c n k) :
    ∃ middle created, d.Reshaped before c after middle created
      (d.holding (before ++ o :: (after ++ left)) k) := by
  obtain ⟨m, rfl, hm⟩ := hleft
  refine ⟨some o, m, reshaped_holding ?_ hm hk (by simp)⟩
  intro p hp
  cases hp
  exact ho

/-- In the place of a container that is gone. -/
theorem exists_reshaped_gone {n : MemoryContainer} (hn : d.CreatedFor c n (d.created + 1)) :
    ∃ middle created, d.Reshaped before c after middle created
      (d.holding (before ++ after ++ [n]) (d.created + 1)) := by
  refine ⟨none, some n, reshaped_holding (fun o ho => nomatch ho) ?_ (Nat.le_succ _) (by simp)⟩
  intro m hm
  cases hm
  exact hn

theorem Aftermath.reshaped {result : Except ReplaceError Replaced}
    (hl : d.Locates before c after) (h : Aftermath d before c after image result t) :
    ∃ middle created, d.Reshaped before c after middle created t := by
  cases h with
  | notInspected key e => exact ⟨some c, none, reshaped_self hl⟩
  | notStopped _ e => exact ⟨some c, none, reshaped_self hl⟩
  | notRemoved _ e => exact ⟨some c, none, reshaped_self hl⟩
  | notRecreated _ e =>
      exact ⟨none, none, reshaped_holding (fun o ho => nomatch ho) (fun n hn => nomatch hn)
        (Nat.le_refl _) (by simp)⟩
  | recreated _ => exact exists_reshaped_gone ⟨rfl, .inl rfl, Nat.lt_succ_self _⟩
  | rolledBack _ cause now hleft =>
      exact exists_reshaped_same (MemoryContainer.same_started d now c)
        hleft.exists_createdFor.1 hleft.exists_createdFor.2
  | notRestarted _ cause e hleft =>
      exact exists_reshaped_same (MemoryContainer.same_stopped c)
        hleft.exists_createdFor.1 hleft.exists_createdFor.2
  | @oldNotRemoved _ e n hn =>
      refine exists_reshaped_same (MemoryContainer.same_stopped c) (Nat.le_succ _)
        ⟨some n, rfl, fun m hm => ?_⟩
      cases hm
      exact hn.createdFor
  | notRenamed _ e hn => exact exists_reshaped_gone hn.createdFor
  | tookOver _ hn =>
      exact exists_reshaped_gone ⟨hn.id_eq, .inl rfl, Nat.lt_succ_self _⟩

end Replacement

end ContainerFleet
