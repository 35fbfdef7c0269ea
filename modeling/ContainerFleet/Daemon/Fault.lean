import ContainerFleet.Daemon.Error

/-!
Rules by which calls to a daemon fail, for daemons that are not real.
-/

namespace ContainerFleet

/-- Which calls are meant, by their texts: one text, or all that start alike. -/
inductive CallPattern where
  | exact (text : String)
  | startingWith (start : String)
deriving DecidableEq, Repr

namespace CallPattern

/-- A pattern as written: a star at the end stands for any text. -/
def ofText (s : String) : CallPattern :=
  match s.toList.reverse with
  | '*' :: start => .startingWith (String.ofList start.reverse)
  | _ => .exact s

def Matches : CallPattern → String → Bool
  | .exact text, call => call == text
  | .startingWith start, call => start.toList.isPrefixOf call.toList

end CallPattern

/-- Calls that fail: those that match, after some that are let through, and as often as said. -/
structure FaultRule where
  pattern : CallPattern
  error : DaemonError
  /-- How many matching calls are let through first. -/
  skip : Nat
  /-- How many calls fail; all when there is no number. -/
  times : Option Nat
deriving DecidableEq, Repr

namespace FaultRule

/-- The error with which a call fails, and the rules afterwards. The first rule that applies
decides; rules behind it do not count the call. -/
def next : List FaultRule → String → Option DaemonError × List FaultRule
  | [], _ => (none, [])
  | r :: rules, call =>
    let pass (r : FaultRule) : Option DaemonError × List FaultRule :=
      ((next rules call).1, r :: (next rules call).2)
    if r.pattern.Matches call then
      match r.skip, r.times with
      | n + 1, _ => pass { r with skip := n }
      | 0, none => (some r.error, r :: rules)
      | 0, some 0 => pass r
      | 0, some (n + 1) => (some r.error, { r with times := some n } :: rules)
    else pass r

end FaultRule

end ContainerFleet
