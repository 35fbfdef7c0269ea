import ContainerFleet.Proofs.Program.Conversation
import ContainerFleet.Update.Tasks

/-!
Programs whose requests are carried out by other programs, and programs side by side. Main
statements: `AsksOnly.interpret`, and `exists_sideBySide_of_interleave`, that programs side by side
each make a run of their own, whatever the turns.
-/

namespace ContainerFleet.Program

variable {I J : Interface} {α : Type}

/-- A run of a program that is carried out elsewhere is a run of it, and each of its exchanges is
one of those that carry out a request. -/
theorem exists_runs_of_interpret {carryOut : (q : I.Request) → Program J (I.Reply q)}
    {p : Program I α} {trace : List (Exchange J)} {a : α}
    (h : Runs (p.interpret carryOut) trace a) :
    ∃ own, Runs p own a ∧
      ∀ y ∈ trace, ∃ x ∈ own, ∃ part, Runs (carryOut x.request) part x.reply ∧ y ∈ part := by
  induction p generalizing trace with
  | done b =>
      obtain ⟨rfl, rfl⟩ := runs_pure_iff.1 h
      exact ⟨[], .done a, by simp⟩
  | ask q next ih =>
      obtain ⟨part, rest, r, rfl, hpart, hrest⟩ := exists_of_runs_bind h
      obtain ⟨own, hown, hmem⟩ := ih r hrest
      refine ⟨⟨q, r⟩ :: own, .ask r hown, ?_⟩
      intro y hy
      rcases List.mem_append.1 hy with hy | hy
      · exact ⟨⟨q, r⟩, List.mem_cons_self, part, hpart, hy⟩
      · obtain ⟨x, hx, hfound⟩ := hmem y hy
        exact ⟨x, List.mem_cons_of_mem _ hx, hfound⟩

theorem AsksOnly.interpret {P : I.Request → Prop} {Q : J.Request → Prop}
    {carryOut : (q : I.Request) → Program J (I.Reply q)} {p : Program I α} (hp : AsksOnly P p)
    (hcarryOut : ∀ q, P q → AsksOnly Q (carryOut q)) : AsksOnly Q (p.interpret carryOut) := by
  intro trace a h y hy
  obtain ⟨own, hown, hmem⟩ := exists_runs_of_interpret h
  obtain ⟨x, hx, part, hpart, hy⟩ := hmem y hy
  exact hcarryOut x.request (hp own a hown x hx) part x.reply hpart y hy

theorem Yields.interpret {P : α → Prop} {carryOut : (q : I.Request) → Program J (I.Reply q)}
    {p : Program I α} (hp : Yields P p) : Yields P (p.interpret carryOut) := by
  intro trace a h
  obtain ⟨own, hown, -⟩ := exists_runs_of_interpret h
  exact hp own a hown

/-- What one of several parties has, out of what all have with the numbers of the parties. -/
def own {β : Type} (i : Nat) (tagged : List (Nat × β)) : List β :=
  tagged.filterMap fun x => if x.1 = i then some x.2 else none

section Own

variable {β : Type} {i j : Nat} {x : β} {tagged t u : List (Nat × β)}

@[simp]
theorem own_nil : own i ([] : List (Nat × β)) = [] :=
  rfl

@[simp]
theorem own_cons_self : own i ((i, x) :: tagged) = x :: own i tagged := by
  simp [own]

theorem own_cons_of_ne (h : j ≠ i) : own i ((j, x) :: tagged) = own i tagged := by
  simp [own, h]

theorem own_append : own i (t ++ u) = own i t ++ own i u :=
  List.filterMap_append

theorem mem_own : x ∈ own i tagged ↔ (i, x) ∈ tagged := by
  constructor
  · intro h
    obtain ⟨⟨j, y⟩, hmem, heq⟩ := List.mem_filterMap.1 h
    dsimp only at heq
    split at heq
    · next hji =>
        cases heq
        exact hji ▸ hmem
    · cases heq
  · intro h
    exact List.mem_filterMap.2 ⟨(i, x), h, if_pos rfl⟩

/-- Everything is from one party. -/
theorem own_map_self (xs : List β) : own i (xs.map (i, ·)) = xs := by
  induction xs with
  | nil => rfl
  | cons x xs ih => rw [List.map_cons, own_cons_self, ih]

theorem own_map_of_ne (xs : List β) (h : j ≠ i) : own i (xs.map (j, ·)) = [] := by
  induction xs with
  | nil => rfl
  | cons x xs ih => rw [List.map_cons, own_cons_of_ne h, ih]

theorem own_sublist : (own i tagged).Sublist (tagged.map Prod.snd) := by
  induction tagged with
  | nil => exact .slnil
  | cons y tagged ih =>
      obtain ⟨j, y⟩ := y
      by_cases hij : j = i
      · subst hij
        rw [own_cons_self]
        exact ih.cons_cons y
      · rw [own_cons_of_ne hij]
        exact ih.cons y

/-- What all parties have is cut where one of them has something. -/
theorem exists_tagged_of_append_eq {rest before after : List β}
    (h : tagged.map Prod.snd ++ rest = before ++ x :: after) (hx : x ∉ rest) :
    ∃ t i u, tagged = t ++ (i, x) :: u ∧ before = t.map Prod.snd ∧
      after = u.map Prod.snd ++ rest := by
  rcases List.append_eq_append_iff.1 h with ⟨more, rfl, rfl⟩ | ⟨more, htagged, hmore⟩
  · exact absurd (by simp) hx
  · cases more with
    | nil => exact absurd (by rw [← List.nil_append rest, ← hmore]; exact List.mem_cons_self) hx
    | cons y more =>
        obtain ⟨rfl, rfl⟩ := List.cons.inj hmore
        obtain ⟨t, v, rfl, rfl, hv⟩ := List.map_eq_append_iff.1 htagged
        obtain ⟨⟨i, y⟩, u, rfl, rfl, rfl⟩ := List.map_eq_cons_iff.1 hv
        exact ⟨t, i, u, rfl, rfl, rfl⟩

/-- The parties with their numbers moved up by one. -/
def moveUp (tagged : List (Nat × β)) : List (Nat × β) :=
  tagged.map fun x => (x.1 + 1, x.2)

theorem moveUp_cons : moveUp ((j, x) :: tagged) = (j + 1, x) :: moveUp tagged :=
  rfl

theorem own_zero_moveUp : own 0 (moveUp tagged) = [] := by
  induction tagged with
  | nil => rfl
  | cons y tagged ih =>
      obtain ⟨j, y⟩ := y
      rw [moveUp_cons, own_cons_of_ne (Nat.succ_ne_zero j), ih]

theorem own_succ_moveUp : own (i + 1) (moveUp tagged) = own i tagged := by
  induction tagged with
  | nil => rfl
  | cons y tagged ih =>
      obtain ⟨j, y⟩ := y
      rw [moveUp_cons]
      by_cases hij : j = i
      · subst hij
        rw [own_cons_self, own_cons_self, ih]
      · rw [own_cons_of_ne hij, own_cons_of_ne fun h => hij (Nat.succ.inj h), ih]

/-- The parties without the first one, with their numbers moved down by one. -/
def moveDown (tagged : List (Nat × β)) : List (Nat × β) :=
  tagged.filterMap fun x => if x.1 = 0 then none else some (x.1 - 1, x.2)

theorem own_moveDown : own i (moveDown tagged) = own (i + 1) tagged := by
  rw [own, moveDown, List.filterMap_filterMap]
  refine congrArg (fun f => List.filterMap f tagged) (funext fun ⟨j, y⟩ => ?_)
  cases j with
  | zero => simp
  | succ j => simp

/-- What all parties have is what the first one has, and what the others have. -/
theorem perm_own_zero (tagged : List (Nat × β)) :
    (tagged.map Prod.snd).Perm (own 0 tagged ++ (moveDown tagged).map Prod.snd) := by
  induction tagged with
  | nil => exact .nil
  | cons x tagged ih =>
      obtain ⟨j, y⟩ := x
      cases j with
      | zero => simpa [moveDown] using ih
      | succ j =>
          rw [own_cons_of_ne (by simp)]
          exact (ih.cons y).trans (by simpa [moveDown] using List.perm_middle.symm)

end Own

/-- Several programs went on side by side: the exchanges with the numbers of the programs that had
them are, for each program, those of a run of its own, and it ended with its part of the results. -/
structure SideBySide (ps : List (Program I α)) (tagged : List (Nat × Exchange I))
    (as : List α) : Prop where
  known : ∀ x ∈ tagged, x.1 < ps.length
  length_eq : as.length = ps.length
  runs : ∀ i p, ps[i]? = some p → ∃ a, as[i]? = some a ∧ Runs p (own i tagged) a

theorem SideBySide.eq_nil {tagged : List (Nat × Exchange I)} {as : List α}
    (h : SideBySide [] tagged as) : tagged = [] ∧ as = [] :=
  ⟨List.eq_nil_iff_forall_not_mem.2 fun x hx => absurd (h.known x hx) (Nat.not_lt_zero _),
    List.length_eq_zero_iff.1 h.length_eq⟩

/-- The first of several programs made a run of its own, and the others went on side by side. -/
theorem SideBySide.exists_of_cons {p : Program I α} {ps : List (Program I α)}
    {tagged : List (Nat × Exchange I)} {as : List α} (h : SideBySide (p :: ps) tagged as) :
    ∃ a rest, as = a :: rest ∧ Runs p (own 0 tagged) a ∧ SideBySide ps (moveDown tagged) rest := by
  obtain ⟨a, ha, hruns⟩ := h.runs 0 p rfl
  obtain ⟨rest, rfl⟩ : ∃ rest, as = a :: rest := by
    cases as with
    | nil => cases ha
    | cons b rest =>
        cases ha
        exact ⟨rest, rfl⟩
  refine ⟨a, rest, rfl, hruns, ?_, Nat.succ.inj h.length_eq, fun i q hq => ?_⟩
  · intro x hx
    obtain ⟨y, hy, hdown⟩ := List.mem_filterMap.1 hx
    have hlength := h.known y hy
    split at hdown
    · cases hdown
    · cases hdown
      simp only [List.length_cons] at hlength ⊢
      omega
  · rw [own_moveDown]
    exact h.runs (i + 1) q hq

theorem exists_sideBySide_of_gather {ps : List (Program I α)} {trace : List (Exchange I)}
    {as : List α} (h : Runs (gather ps) trace as) :
    ∃ tagged, trace = tagged.map Prod.snd ∧ SideBySide ps tagged as := by
  induction ps generalizing trace as with
  | nil =>
      obtain ⟨rfl, rfl⟩ := runs_pure_iff.1 h
      exact ⟨[], rfl, by simp, rfl, by simp⟩
  | cons p ps ih =>
      obtain ⟨t, u, a, rfl, hp, h⟩ := exists_of_runs_bind h
      obtain ⟨v, w, rest, rfl, hrest, h⟩ := exists_of_runs_bind h
      obtain ⟨rfl, rfl⟩ := runs_pure_iff.1 h
      obtain ⟨tagged, rfl, hside⟩ := ih hrest
      refine ⟨t.map (0, ·) ++ moveUp tagged, ?_, ?_, ?_, ?_⟩
      · simp [moveUp, Function.comp_def]
      · intro x hx
        rcases List.mem_append.1 hx with hx | hx
        · obtain ⟨y, -, rfl⟩ := List.mem_map.1 hx
          simp
        · obtain ⟨y, hy, rfl⟩ := List.mem_map.1 hx
          simpa using hside.known y hy
      · simp [hside.length_eq]
      · intro i q hq
        cases i with
        | zero =>
            obtain rfl : p = q := by simpa using hq
            rw [own_append, own_map_self, own_zero_moveUp, List.append_nil]
            exact ⟨a, rfl, hp⟩
        | succ i =>
            rw [own_append, own_map_of_ne _ (by simp), own_succ_moveUp]
            exact hside.runs i q hq

/-- Side by side, every program makes a run of its own, in its own order. By induction on the turns:
one of them puts one exchange in front. -/
theorem exists_sideBySide_of_interleave {turns : List Nat} {ps : List (Program I α)}
    {trace : List (Exchange I)} {as : List α} (h : Runs (interleave turns ps) trace as) :
    ∃ tagged, trace = tagged.map Prod.snd ∧ SideBySide ps tagged as := by
  induction turns generalizing ps trace with
  | nil => exact exists_sideBySide_of_gather h
  | cons i turns ih =>
      unfold interleave at h
      split at h
      · next q next hi =>
          have hlength : i < ps.length := (List.getElem?_eq_some_iff.1 hi).1
          cases h with
          | @ask _ _ rest _ r hrest =>
              obtain ⟨tagged, rfl, hside⟩ := ih hrest
              have hknown := hside.known
              have hlengths := hside.length_eq
              rw [List.length_set] at hknown hlengths
              refine ⟨(i, ⟨q, r⟩) :: tagged, rfl, List.forall_mem_cons.2 ⟨hlength, hknown⟩,
                hlengths, fun j p hp => ?_⟩
              by_cases hij : i = j
              · subst hij
                obtain rfl : .ask q next = p := by simpa [hi] using hp
                obtain ⟨a, ha, hrun⟩ := hside.runs i (next r) (by simp [hlength])
                rw [own_cons_self]
                exact ⟨a, ha, .ask r hrun⟩
              · rw [own_cons_of_ne hij]
                exact hside.runs j p (by rw [List.getElem?_set_ne hij, hp])
      · exact ih h

theorem asksOnly_interleave {P : I.Request → Prop} {turns : List Nat} {ps : List (Program I α)}
    (h : ∀ p ∈ ps, AsksOnly P p) : AsksOnly P (interleave turns ps) := by
  intro trace as hrun x hx
  obtain ⟨tagged, rfl, hside⟩ := exists_sideBySide_of_interleave hrun
  obtain ⟨⟨i, y⟩, hy, rfl⟩ := List.mem_map.1 hx
  have hlength := hside.known _ hy
  obtain ⟨a, -, hown⟩ := hside.runs i ps[i] (List.getElem?_eq_getElem hlength)
  exact h _ (List.getElem_mem hlength) _ _ hown y (mem_own.2 hy)

theorem gather_map {β : Type} (f : α → β) (ps : List (Program I α)) :
    gather (ps.map fun p => bind p fun a => .done (f a)) =
      bind (gather ps) fun as => .done (as.map f) := by
  induction ps with
  | nil => rfl
  | cons p ps ih => simp only [List.map_cons, gather, ih, bind_bind, bind]

/-- What is done with the results makes no difference to the requests of programs side by side. -/
theorem interleave_map {β : Type} (f : α → β) (turns : List Nat) (ps : List (Program I α)) :
    interleave turns (ps.map fun p => bind p fun a => .done (f a)) =
      bind (interleave turns ps) fun as => .done (as.map f) := by
  induction turns generalizing ps with
  | nil => exact gather_map f ps
  | cons i turns ih =>
      cases hp : ps[i]? with
      | none => simp only [interleave, List.getElem?_map, hp, Option.map_none, ih]
      | some p =>
          cases p with
          | done a => simp only [interleave, List.getElem?_map, hp, Option.map_some, bind, ih]
          | ask q next =>
              simp only [interleave, List.getElem?_map, hp, Option.map_some, bind, ← ih,
                List.map_set]

end ContainerFleet.Program
