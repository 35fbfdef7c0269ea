import ContainerFleet.Proofs.Program.Conduct
import ContainerFleet.Proofs.Program.Trace

/-!
What can be said of every run of a program: which requests are among its exchanges, and what it
ends with. `Converses` is a run in a world of some conduct together with its exchanges; main
statements: `converses_converse`, by which the conversation with a world that replies by a function
can be computed, and `converse_eq_of_leads`, that it has no other one.
-/

namespace ContainerFleet.Program

variable {I : Interface} {α β σ : Type}

section Every

variable {P : I.Request → Prop}

/-- Programs that never ask anything but this. -/
def AsksOnly (P : I.Request → Prop) (p : Program I α) : Prop :=
  ∀ trace a, Runs p trace a → ∀ x ∈ trace, P x.request

theorem asksOnly_pure (a : α) : AsksOnly P (pure a : Program I α) := by
  intro trace b h x hx
  rw [(runs_pure_iff.1 h).1] at hx
  cases hx

theorem asksOnly_call {q : I.Request} (hq : P q) : AsksOnly P (call q) := by
  intro trace r h x hx
  rw [runs_call_iff.1 h, List.mem_singleton] at hx
  rw [hx]
  exact hq

theorem AsksOnly.bind {p : Program I α} {f : α → Program I β} (hp : AsksOnly P p)
    (hf : ∀ a, AsksOnly P (f a)) : AsksOnly P (p >>= f) := by
  intro trace b h x hx
  obtain ⟨t, u, a, rfl, ht, hu⟩ := runs_bind_iff.1 h
  rcases List.mem_append.1 hx with hx | hx
  · exact hp t a ht x hx
  · exact hf a u b hu x hx

end Every

section Results

variable {P : α → Prop} {Q : β → Prop}

/-- Programs that never end with anything but this. -/
def Yields (P : α → Prop) (p : Program I α) : Prop :=
  ∀ trace a, Runs p trace a → P a

theorem yields_pure {a : α} (ha : P a) : Yields P (pure a : Program I α) := by
  intro trace b h
  rw [(runs_pure_iff.1 h).2]
  exact ha

theorem yields_bind {p : Program I α} {f : α → Program I β} (hf : ∀ a, Yields Q (f a)) :
    Yields Q (p >>= f) := by
  intro trace b h
  obtain ⟨t, u, a, rfl, -, hu⟩ := runs_bind_iff.1 h
  exact hf a u b hu

end Results

variable {can might : Conduct I σ}

/-- `Converses can p s trace a t`: from `s` a world of this conduct can bring the program through
these exchanges to its end with `a`, and is in `t` then. -/
inductive Converses (can : Conduct I σ) :
    Program I α → σ → List (Exchange I) → α → σ → Prop where
  | done (a : α) (s : σ) : Converses can (.done a) s [] a s
  | ask {q : I.Request} {next : I.Reply q → Program I α} {s t u : σ} {r : I.Reply q}
      {trace : List (Exchange I)} {a : α} (hq : can q s r t)
      (h : Converses can (next r) t trace a u) :
      Converses can (.ask q next) s (⟨q, r⟩ :: trace) a u

theorem converses_pure_iff {a b : α} {s t : σ} {trace : List (Exchange I)} :
    Converses can (pure a : Program I α) s trace b t ↔ trace = [] ∧ b = a ∧ t = s := by
  constructor
  · intro h
    cases h
    exact ⟨rfl, rfl, rfl⟩
  · rintro ⟨rfl, rfl, rfl⟩
    exact .done b t

/-- A conversation of two programs one after the other is one of the first and then one of the
second. -/
theorem converses_bind_iff {p : Program I α} {f : α → Program I β} {b : β} {s u : σ}
    {trace : List (Exchange I)} :
    Converses can (p >>= f) s trace b u ↔
      ∃ v w a t, trace = v ++ w ∧ Converses can p s v a t ∧ Converses can (f a) t w b u := by
  constructor
  · intro h
    induction p generalizing s trace with
    | done a => exact ⟨[], trace, a, s, rfl, .done a s, h⟩
    | ask q next ih =>
        cases h with
        | ask hq h =>
            obtain ⟨v, w, a, t, rfl, hp, hf⟩ := ih _ h
            exact ⟨_, w, a, t, rfl, .ask hq hp, hf⟩
  · rintro ⟨v, w, a, t, rfl, hp, hf⟩
    induction hp with
    | done a s => exact hf
    | ask hq _ ih => exact .ask hq (ih hf)

theorem Converses.runs {p : Program I α} {s t : σ} {trace : List (Exchange I)} {a : α}
    (h : Converses can p s trace a t) : Runs p trace a := by
  induction h with
  | done a s => exact .done a
  | ask _ _ ih => exact .ask _ ih

/-- The first reply of a conversation is one that the world may give. -/
theorem Converses.exists_head {p : Program I α} {s t : σ} {x : Exchange I}
    {trace : List (Exchange I)} {a : α} (h : Converses can p s (x :: trace) a t) :
    ∃ u, can x.request s x.reply u := by
  cases h with
  | ask hq _ => exact ⟨_, hq⟩

/-- A conversation is a run of every conduct that allows as much. -/
theorem Converses.runsIn {p : Program I α} {s t : σ} {trace : List (Exchange I)} {a : α}
    (h : Converses can p s trace a t) (hmight : ∀ q s r t, can q s r t → might q s r t) :
    RunsIn might p s a t := by
  induction h with
  | done a s => exact .done a s
  | ask hq _ ih => exact .ask (hmight _ _ _ _ hq) ih

theorem RunsIn.exists_converses {p : Program I α} {s t : σ} {a : α} (h : RunsIn can p s a t) :
    ∃ trace, Converses can p s trace a t := by
  induction h with
  | done a s => exact ⟨[], .done a s⟩
  | ask hq _ ih =>
      obtain ⟨trace, h⟩ := ih
      exact ⟨_, .ask hq h⟩

/-- A program leaves every state as it is when all that it asks does. -/
theorem AsksOnly.still {P : I.Request → Prop} {p : Program I α} (hp : AsksOnly P p)
    (hcan : ∀ q, P q → ∀ s r t, can q s r t → t = s) : Still can p := by
  intro s a t hrun
  obtain ⟨trace, h⟩ := hrun.exists_converses
  have hasked := hp trace a h.runs
  clear hp hrun
  induction h with
  | done a s => rfl
  | ask hq _ ih =>
      rw [List.forall_mem_cons] at hasked
      rw [ih hasked.2, hcan _ hasked.1 _ _ _ hq]

/-- `Leads can s trace t`: a world of this conduct can have these exchanges one after the other from
`s` on, whoever asks, and is in `t` then. -/
inductive Leads (can : Conduct I σ) : σ → List (Exchange I) → σ → Prop where
  | nil (s : σ) : Leads can s [] s
  | cons {x : Exchange I} {trace : List (Exchange I)} {s t u : σ}
      (hx : can x.request s x.reply t) (h : Leads can t trace u) : Leads can s (x :: trace) u

theorem leads_nil_iff {s t : σ} : Leads can s [] t ↔ t = s := by
  constructor
  · intro h
    cases h
    rfl
  · rintro rfl
    exact .nil t

theorem leads_cons_iff {s u : σ} {x : Exchange I} {trace : List (Exchange I)} :
    Leads can s (x :: trace) u ↔ ∃ t, can x.request s x.reply t ∧ Leads can t trace u := by
  constructor
  · intro h
    cases h with
    | cons hx h => exact ⟨_, hx, h⟩
  · rintro ⟨t, hx, h⟩
    exact .cons hx h

theorem leads_append_iff {s u : σ} {v w : List (Exchange I)} :
    Leads can s (v ++ w) u ↔ ∃ t, Leads can s v t ∧ Leads can t w u := by
  constructor
  · intro h
    induction v generalizing s with
    | nil => exact ⟨s, .nil s, h⟩
    | cons x v ih =>
        cases h with
        | cons hx h =>
            obtain ⟨t, hv, hw⟩ := ih h
            exact ⟨t, .cons hx hv, hw⟩
  · rintro ⟨t, hv, hw⟩
    induction hv with
    | nil s => exact hw
    | cons hx _ ih => exact .cons hx (ih hw)

theorem Converses.leads {p : Program I α} {s t : σ} {trace : List (Exchange I)} {a : α}
    (h : Converses can p s trace a t) : Leads can s trace t := by
  induction h with
  | done a s => exact .nil s
  | ask hq _ ih => exact .cons hq ih

/-- The exchanges of a program with a world that replies by a function, and what comes out. -/
def converse (handle : (q : I.Request) → σ → I.Reply q × σ) :
    Program I α → σ → List (Exchange I) × α × σ
  | .done a, s => ([], a, s)
  | .ask q next, s =>
    let (reply, t) := handle q s
    let (trace, ended) := converse handle (next reply) t
    (⟨q, reply⟩ :: trace, ended)

theorem run_eq_converse (handle : (q : I.Request) → σ → I.Reply q × σ) (p : Program I α) (s : σ) :
    run handle p s = (converse handle p s).2 := by
  induction p generalizing s with
  | done a => rfl
  | ask q next ih => exact ih _ _

/-- Two programs one after the other have their conversations one after the other. -/
theorem converse_bind (handle : (q : I.Request) → σ → I.Reply q × σ) (p : Program I α)
    (f : α → Program I β) (s : σ) :
    converse handle (p >>= f) s =
      ((converse handle p s).1 ++
          (converse handle (f (converse handle p s).2.1) (converse handle p s).2.2).1,
        (converse handle (f (converse handle p s).2.1) (converse handle p s).2.2).2) := by
  induction p generalizing s with
  | done a => rfl
  | ask q next ih =>
      have hnext := ih (handle q s).1 (handle q s).2
      change (_ :: _, _) = _
      simp only [converse, List.cons_append]
      exact congrArg (fun c => (⟨q, (handle q s).1⟩ :: c.1, c.2)) hnext

theorem runs_converse (handle : (q : I.Request) → σ → I.Reply q × σ) (p : Program I α) (s : σ) :
    Runs p (converse handle p s).1 (converse handle p s).2.1 := by
  induction p generalizing s with
  | done a => exact .done a
  | ask q next ih => exact .ask _ (ih _ _)

/-- Each exchange with a world that replies by a function has one of its replies. -/
theorem forall_mem_converse {P : Exchange I → Prop}
    (handle : (q : I.Request) → σ → I.Reply q × σ) (hP : ∀ q s, P ⟨q, (handle q s).1⟩)
    (p : Program I α) (s : σ) : ∀ x ∈ (converse handle p s).1, P x := by
  induction p generalizing s with
  | done a => exact List.forall_mem_nil P
  | ask q next ih => exact List.forall_mem_cons.2 ⟨hP q s, ih _ _⟩

/-- The conversation with a world that replies by a function is one of every conduct that allows each
of its replies. The conduct may speak of a part of the state only. -/
theorem converses_view {τ : Type} (handle : (q : I.Request) → τ → I.Reply q × τ) (view : τ → σ)
    (hcan : ∀ q w, can q (view w) (handle q w).1 (view (handle q w).2)) (p : Program I α) (w : τ) :
    Converses can p (view w) (converse handle p w).1 (converse handle p w).2.1
      (view (converse handle p w).2.2) := by
  induction p generalizing w with
  | done a => exact .done a (view w)
  | ask q next ih => exact .ask (hcan q w) (ih _ _)

theorem converses_converse (handle : (q : I.Request) → σ → I.Reply q × σ)
    (hcan : ∀ q s, can q s (handle q s).1 (handle q s).2) (p : Program I α) (s : σ) :
    Converses can p s (converse handle p s).1 (converse handle p s).2.1
      (converse handle p s).2.2 :=
  converses_view handle id hcan p s

/-- The conduct of a world that replies by a function. -/
def Replying (handle : (q : I.Request) → σ → I.Reply q × σ) : Conduct I σ :=
  fun q s r t => handle q s = (r, t)

theorem leads_converse (handle : (q : I.Request) → σ → I.Reply q × σ) (p : Program I α) (s : σ) :
    Leads (Replying handle) s (converse handle p s).1 (converse handle p s).2.2 :=
  (converses_converse handle (fun _ _ => rfl) p s).leads

/-- A world that replies by a function has one conversation with a program. -/
theorem converse_eq_of_leads {handle : (q : I.Request) → σ → I.Reply q × σ} {p : Program I α}
    {trace : List (Exchange I)} {a : α} {s t : σ} (hrun : Runs p trace a)
    (hleads : Leads (Replying handle) s trace t) : converse handle p s = (trace, a, t) := by
  induction hrun generalizing s with
  | done a =>
      cases hleads
      rfl
  | ask r hrest ih =>
      cases hleads with
      | cons hx hleads =>
          have hreply : handle _ s = (r, _) := hx
          simp only [converse, hreply, ih hleads]

end ContainerFleet.Program
