import ContainerFleet.Proofs.Daemon.Conduct

/-!
Where calls that name a container strike. `MemoryDaemon.Locates` says that an id leads to one place
in the list of containers; each call that changes a container is then an equation on that list.
-/

namespace ContainerFleet

namespace MemoryContainer

def stopped (c : MemoryContainer) : MemoryContainer :=
  { c with running := false }

def renamed (c : MemoryContainer) (name : String) : MemoryContainer :=
  { c with name := name }

/-- The same container, whether and since when it runs apart. -/
def Same (o c : MemoryContainer) : Prop :=
  o = { c with running := o.running, uptime := o.uptime }

theorem same_stopped (c : MemoryContainer) : c.stopped.Same c :=
  rfl

theorem same_started (d : MemoryDaemon) (now : Moment) (c : MemoryContainer) :
    (d.started now c).Same c :=
  rfl

theorem Same.id_eq {o c : MemoryContainer} (h : o.Same c) : o.id = c.id := by
  rw [h]

theorem Same.name_eq {o c : MemoryContainer} (h : o.Same c) : o.name = c.name := by
  rw [h]

theorem isCalled_eq_false_iff {key : String} {c : MemoryContainer} :
    c.isCalled key = false ↔ c.id ≠ key ∧ c.name ≠ key := by
  simp [isCalled]

theorem isCalled_self (c : MemoryContainer) : c.isCalled c.id = true := by
  simp [isCalled]

end MemoryContainer

namespace MemoryDaemon

/-- The daemon with other containers, of which so many were created. -/
def holding (d : MemoryDaemon) (containers : List MemoryContainer) (created : Nat) :
    MemoryDaemon :=
  { d with containers := containers, created := created }

/-- No container has this id or name. -/
def Unused (d : MemoryDaemon) (key : String) : Prop :=
  ∀ c ∈ d.containers, c.isCalled key = false

/-- The id of a container leads to it, and these are the containers before and after it. -/
structure Locates (d : MemoryDaemon) (before : List MemoryContainer) (c : MemoryContainer)
    (after : List MemoryContainer) : Prop where
  containers_eq : d.containers = before ++ c :: after
  before_isCalled : ∀ o ∈ before, o.isCalled c.id = false

variable {d : MemoryDaemon} {before after : List MemoryContainer} {c : MemoryContainer}

theorem exists_locates (h : d.find? c.id = some c) : ∃ before after, d.Locates before c after := by
  obtain ⟨-, before, after, heq, hbefore⟩ := List.find?_eq_some_iff_append.1 h
  exact ⟨before, after, heq, by simpa using hbefore⟩

theorem Locates.find? (h : d.Locates before c after) : d.find? c.id = some c := by
  refine List.find?_eq_some_iff_append.2 ⟨c.isCalled_self, before, after, h.containers_eq, ?_⟩
  simpa using h.before_isCalled

theorem Unused.id_ne {key : String} (h : d.Unused key) (hc : c ∈ d.containers) : c.id ≠ key :=
  (MemoryContainer.isCalled_eq_false_iff.1 (h c hc)).1

theorem Unused.name_ne {key : String} (h : d.Unused key) (hc : c ∈ d.containers) : c.name ≠ key :=
  (MemoryContainer.isCalled_eq_false_iff.1 (h c hc)).2

theorem Locates.mem (h : d.Locates before c after) : c ∈ d.containers := by
  rw [h.containers_eq]
  exact List.mem_append_right before List.mem_cons_self

theorem Locates.mem_of_mem (h : d.Locates before c after) {o : MemoryContainer}
    (ho : o ∈ before ++ after) : o ∈ d.containers := by
  rw [h.containers_eq]
  exact List.mem_append.2 ((List.mem_append.1 ho).imp_right (List.mem_cons_of_mem c))

/-- A name stays unused when a container changes in what it is not called by. -/
theorem Unused.of_same {key : String} {o : MemoryContainer} {k : Nat} (h : d.Unused key)
    (hl : d.Locates before c after) (ho : o.Same c) :
    (d.holding (before ++ o :: after) k).Unused key := by
  intro p hp
  rcases List.mem_append.1 hp with hp | hp
  · exact h p (hl.mem_of_mem (List.mem_append_left after hp))
  · rcases List.mem_cons.1 hp with rfl | hp
    · rw [MemoryContainer.isCalled, ho.id_eq, ho.name_eq]
      exact h c hl.mem
    · exact h p (hl.mem_of_mem (List.mem_append_right before hp))

/-- A container that joined under an unused id is led to by it. -/
theorem Unused.locates {n : MemoryContainer} {k : Nat} (h : d.Unused n.id) :
    (d.holding (d.containers ++ [n]) k).Locates d.containers n [] :=
  ⟨rfl, h⟩

theorem modifyFirst_append {p : MemoryContainer → Bool} {f : MemoryContainer → MemoryContainer}
    (hbefore : ∀ o ∈ before, p o = false) (hc : p c = true) :
    modifyFirst p f (before ++ c :: after) = before ++ f c :: after := by
  induction before with
  | nil => simp [modifyFirst, hc]
  | cons o before ih =>
      rw [List.forall_mem_cons] at hbefore
      simp [modifyFirst, hbefore.1, ih hbefore.2]

/-- A change that leaves the names leaves them in their order. -/
theorem map_name_modifyFirst {p : MemoryContainer → Bool} {f : MemoryContainer → MemoryContainer}
    (hf : ∀ c, (f c).name = c.name) (containers : List MemoryContainer) :
    (modifyFirst p f containers).map MemoryContainer.name =
      containers.map MemoryContainer.name := by
  induction containers with
  | nil => rfl
  | cons c containers ih =>
      rw [modifyFirst]
      split
      · rw [List.map_cons, List.map_cons, hf]
      · rw [List.map_cons, List.map_cons, ih]

theorem Locates.modify (h : d.Locates before c after) (f : MemoryContainer → MemoryContainer) :
    d.modify c.id f = d.holding (before ++ f c :: after) d.created := by
  rw [MemoryDaemon.modify, h.containers_eq, modifyFirst_append h.before_isCalled c.isCalled_self]
  rfl

theorem Locates.eraseP (h : d.Locates before c after) :
    d.containers.eraseP (fun o => o.id == c.id) = before ++ after := by
  have hbefore : ∀ o ∈ before, ¬ (o.id == c.id) = true := by
    intro o ho
    simpa using (MemoryContainer.isCalled_eq_false_iff.1 (h.before_isCalled o ho)).1
  rw [h.containers_eq, List.eraseP_append_right _ hbefore, List.eraseP_cons_of_pos (by simp)]

/-- A change of what is not the id moves no container. -/
theorem Locates.of_id_eq {f : MemoryContainer} {k : Nat} (h : d.Locates before c after)
    (hid : f.id = c.id) : (d.holding (before ++ f :: after) k).Locates before f after :=
  ⟨rfl, by rw [hid]; exact h.before_isCalled⟩

section Answers

variable {t : MemoryDaemon}

theorem Locates.of_start (h : d.Locates before c after)
    (ht : d.Answers (.start c.id) (.ok ()) t) :
    ∃ now, t = d.holding (before ++ d.started now c :: after) d.created := by
  obtain ⟨-, now, -, rfl⟩ := ht.of_start
  exact ⟨now, h.modify _⟩

theorem Locates.of_stop {timeout : Duration} (h : d.Locates before c after)
    (ht : d.Answers (.stop c.id timeout) (.ok ()) t) :
    t = d.holding (before ++ c.stopped :: after) d.created := by
  obtain ⟨-, -, rfl⟩ := ht.of_stop
  exact h.modify _

theorem Locates.of_rename {name : String} (h : d.Locates before c after)
    (ht : d.Answers (.rename c.id name) (.ok ()) t) :
    t = d.holding (before ++ c.renamed name :: after) d.created := by
  obtain ⟨-, -, -, rfl⟩ := ht.of_rename
  exact h.modify _

theorem Locates.of_remove (h : d.Locates before c after)
    (ht : d.Answers (.remove c.id) (.ok ()) t) :
    t = d.holding (before ++ after) d.created := by
  rw [ht.of_remove, h.eraseP]
  rfl

end Answers

end MemoryDaemon

end ContainerFleet
