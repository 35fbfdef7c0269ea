import ContainerFleet.Text.Decimal

/-!
What can go wrong with one call to a daemon.
-/

namespace ContainerFleet

open ContainerFleet.Text

/-- Why a request to a daemon brought no usable answer. -/
inductive ApiFailure where
  /-- The daemon answered with an error and said why. -/
  | refused (status : Nat) (message : String)
  /-- The daemon answered with an error; its answer holds some other text. -/
  | refusedBare (status : Nat) (content : String)
  /-- The daemon reported an error while it was already answering. -/
  | interrupted (message : String)
  /-- The daemon could not be asked, or its answer does not have the agreed form. -/
  | unusable
deriving DecidableEq, Repr

namespace ApiFailure

def refusalText (status : Nat) (reason : String) : String :=
  "Docker responded with status code " ++ String.ofList (Decimal.write status) ++ ": " ++ reason

def message : ApiFailure → String
  | .refused status message => refusalText status message
  | .refusedBare status content => refusalText status content
  | .interrupted _ => "Docker stream error"
  | .unusable => "Unusable answer"

end ApiFailure

inductive DaemonError where
  | api (failure : ApiFailure)
  /-- There is no such container or image. -/
  | notFound (what : String)
  /-- The daemon answered with something that makes no sense here. -/
  | unexpected (what : String)
deriving DecidableEq, Repr

namespace DaemonError

def message : DaemonError → String
  | .api failure => "Docker API error: " ++ failure.message
  | .notFound what => "Not found: " ++ what
  | .unexpected what => "Unexpected daemon response: " ++ what

end DaemonError

end ContainerFleet
