import ContainerFleet.Program

/-!
Programs against worlds of which only the conduct is known: what they may reply to a request, and
the state they may be in afterwards. Main statements: `runsIn_bind_iff` takes such a run apart where
the program was put together, and `runsIn_run` says that a world that replies by a function is one
of them.
-/

namespace ContainerFleet

/-- What a world may do with a request: its reply, and its state afterwards. -/
abbrev Conduct (I : Interface) (σ : Type) : Type :=
  (q : I.Request) → σ → I.Reply q → σ → Prop

namespace Program

variable {I : Interface} {α β σ τ : Type} {can : Conduct I σ}

/-- `RunsIn can p s a t`: from `s` a world of this conduct can bring the program to its end with
`a`, and is in `t` then. -/
inductive RunsIn (can : Conduct I σ) : Program I α → σ → α → σ → Prop where
  | done (a : α) (s : σ) : RunsIn can (.done a) s a s
  | ask {q : I.Request} {next : I.Reply q → Program I α} {s t u : σ} {r : I.Reply q} {a : α}
      (hq : can q s r t) (h : RunsIn can (next r) t a u) : RunsIn can (.ask q next) s a u

theorem runsIn_pure_iff {a b : α} {s t : σ} :
    RunsIn can (pure a : Program I α) s b t ↔ b = a ∧ t = s := by
  constructor
  · intro h
    cases h
    exact ⟨rfl, rfl⟩
  · rintro ⟨rfl, rfl⟩
    exact .done b t

theorem runsIn_call_iff {q : I.Request} {r : I.Reply q} {s t : σ} :
    RunsIn can (call q) s r t ↔ can q s r t := by
  constructor
  · intro h
    cases h with
    | ask hq h =>
        cases h
        exact hq
  · intro h
    exact .ask h (.done r t)

/-- A run of two programs one after the other is a run of the first and then one of the second. -/
theorem runsIn_bind_iff {p : Program I α} {f : α → Program I β} {b : β} {s u : σ} :
    RunsIn can (p >>= f) s b u ↔ ∃ a t, RunsIn can p s a t ∧ RunsIn can (f a) t b u := by
  constructor
  · intro h
    induction p generalizing s with
    | done a => exact ⟨a, s, .done a s, h⟩
    | ask q next ih =>
        cases h with
        | ask hq h =>
            obtain ⟨a, t, hp, hf⟩ := ih _ h
            exact ⟨a, t, .ask hq hp, hf⟩
  · rintro ⟨a, t, hp, hf⟩
    induction hp with
    | done a s => exact hf
    | ask hq _ ih => exact .ask hq (ih hf)

/-- A world that replies by a function is among those of a conduct when each of its replies is. The
conduct may speak of a part of the state only. -/
theorem runsIn_run (handle : (q : I.Request) → τ → I.Reply q × τ) (view : τ → σ)
    (hcan : ∀ q w, can q (view w) (handle q w).1 (view (handle q w).2)) (p : Program I α) (w : τ) :
    RunsIn can p (view w) (run handle p w).1 (view (run handle p w).2) := by
  induction p generalizing w with
  | done a => exact .done a (view w)
  | ask q next ih => exact .ask (hcan q w) (ih _ _)

/-- Programs that leave every state as it is. -/
def Still (can : Conduct I σ) (p : Program I α) : Prop :=
  ∀ s a t, RunsIn can p s a t → t = s

theorem Still.eq {p : Program I α} (hp : Still can p) {a : α} {s t : σ}
    (h : RunsIn can p s a t) : t = s :=
  hp s a t h

theorem still_pure (a : α) : Still can (pure a : Program I α) := by
  intro s b t h
  exact (runsIn_pure_iff.1 h).2

theorem still_call {q : I.Request} (hq : ∀ s r t, can q s r t → t = s) : Still can (call q) := by
  intro s r t h
  exact hq s r t (runsIn_call_iff.1 h)

theorem Still.bind {p : Program I α} {f : α → Program I β} (hp : Still can p)
    (hf : ∀ a, Still can (f a)) : Still can (p >>= f) := by
  intro s b u h
  obtain ⟨a, t, hpt, hft⟩ := runsIn_bind_iff.1 h
  rw [(hf a).eq hft, hp.eq hpt]

end Program

end ContainerFleet
