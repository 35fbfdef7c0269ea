import ContainerFleet.Program

/-!
Independent tasks that go on at the same time. All are waited for, and one that breaks down does not
stop the others.
-/

namespace ContainerFleet

namespace Program

variable {I : Interface} {α : Type}

/-- Programs one after another. -/
def gather : List (Program I α) → Program I (List α)
  | [] => .done []
  | p :: ps => bind p fun a => bind (gather ps) fun as => .done (a :: as)

/-- Programs side by side. The turns say whose next request is made, in this order; a turn of a
program that has ended passes, and what is left after the last turn goes one after another. -/
def interleave : List Nat → List (Program I α) → Program I (List α)
  | [], ps => gather ps
  | i :: turns, ps =>
    match ps[i]? with
    | some (.ask q next) => .ask q fun r => interleave turns (ps.set i (next r))
    | _ => interleave turns ps

/-- The program when it breaks down after some requests, or never if no number of them is given. It
ends with nothing where it breaks down. -/
def breaking : Option Nat → Program I α → Program I (Option α)
  | some 0, _ => .done none
  | _, .done a => .done (some a)
  | some (n + 1), .ask q next => .ask q fun r => breaking (some n) (next r)
  | none, .ask q next => .ask q fun r => breaking none (next r)

end Program

/-- A task that ends after some time, in milliseconds, with a result or by breaking down. -/
structure TimedTask (α : Type) where
  delay : Nat
  result : Option α
deriving Repr

namespace TimedTask

variable {α : Type}

/-- The results in the order of the tasks. -/
def results (tasks : List (TimedTask α)) : List (Option α) :=
  tasks.map TimedTask.result

/-- The numbers of the tasks in the order in which they end. -/
def finishOrder (tasks : List (TimedTask α)) : List Nat :=
  (tasks.zipIdx.mergeSort fun a b => decide (a.1.delay ≤ b.1.delay)).map Prod.snd

/-- When the last one has ended. -/
def totalTime (tasks : List (TimedTask α)) : Nat :=
  (tasks.map TimedTask.delay).foldl max 0

end TimedTask

end ContainerFleet
