/-!
Programs that ask the world around them. A program is a tree: it is done, or it asks something and
goes on with the reply. What a program does is thus independent of who replies. Main statements:
`run_bind` and `exists_of_runs_bind`, that a program put together by `bind` is gone through part by
part.
-/

namespace ContainerFleet

/-- What may be asked, and what kind of reply each question has. -/
structure Interface where
  Request : Type
  Reply : Request → Type

inductive Program (I : Interface) (α : Type) : Type where
  | done (a : α)
  | ask (q : I.Request) (next : I.Reply q → Program I α)

namespace Program

variable {I : Interface} {α β γ σ : Type}

/-- Asks one thing and answers with the reply. -/
def call (q : I.Request) : Program I (I.Reply q) :=
  .ask q .done

def bind : Program I α → (α → Program I β) → Program I β
  | .done a, f => f a
  | .ask q next, f => .ask q fun r => bind (next r) f

instance : Monad (Program I) where
  pure := .done
  bind := bind

theorem bind_done (p : Program I α) : bind p .done = p := by
  induction p with
  | done a => rfl
  | ask q next ih => simp only [bind, ih]

theorem bind_bind (p : Program I α) (f : α → Program I β) (g : β → Program I γ) :
    bind (bind p f) g = bind p fun a => bind (f a) g := by
  induction p with
  | done a => rfl
  | ask q next ih => simp only [bind, ih]

/-- Runs a program against a world with a state, which replies to each request. -/
def run (handle : (q : I.Request) → σ → I.Reply q × σ) : Program I α → σ → α × σ
  | .done a, s => (a, s)
  | .ask q next, s => run handle (next (handle q s).1) (handle q s).2

theorem run_bind (handle : (q : I.Request) → σ → I.Reply q × σ) (p : Program I α)
    (f : α → Program I β) (s : σ) :
    run handle (bind p f) s = run handle (f (run handle p s).1) (run handle p s).2 := by
  induction p generalizing s with
  | done a => rfl
  | ask q next ih => exact ih _ _

/-- A request with the reply it got. -/
structure Exchange (I : Interface) where
  request : I.Request
  reply : I.Reply request

/-- `Runs p trace a`: the program can end with `a` after exactly these exchanges. The replies are
free, so this says what the program does in every world. -/
inductive Runs : Program I α → List (Exchange I) → α → Prop where
  | done (a : α) : Runs (.done a) [] a
  | ask {q : I.Request} {next : I.Reply q → Program I α} {trace : List (Exchange I)} {a : α}
      (r : I.Reply q) (h : Runs (next r) trace a) : Runs (.ask q next) (⟨q, r⟩ :: trace) a

theorem Runs.bind {p : Program I α} {f : α → Program I β} {t u : List (Exchange I)} {a : α} {b : β}
    (hp : Runs p t a) (hf : Runs (f a) u b) : Runs (p.bind f) (t ++ u) b := by
  induction hp with
  | done a => exact hf
  | ask r _ ih => exact .ask r (ih hf)

/-- What a program does that is put together from two is done by one after the other. -/
theorem exists_of_runs_bind {p : Program I α} {f : α → Program I β} {trace : List (Exchange I)}
    {b : β} (h : Runs (p.bind f) trace b) :
    ∃ t u a, trace = t ++ u ∧ Runs p t a ∧ Runs (f a) u b := by
  induction p generalizing trace with
  | done a => exact ⟨[], trace, a, rfl, .done a, h⟩
  | ask q next ih =>
    cases h with
    | ask r hr =>
      obtain ⟨t, u, a, rfl, ht, hu⟩ := ih r hr
      exact ⟨⟨q, r⟩ :: t, u, a, rfl, .ask r ht, hu⟩

/-- The program with each request carried out by a program over another interface. -/
def interpret {J : Interface} (carryOut : (q : I.Request) → Program J (I.Reply q)) :
    Program I α → Program J α
  | .done a => .done a
  | .ask q next => bind (carryOut q) fun r => interpret carryOut (next r)

end Program

end ContainerFleet
