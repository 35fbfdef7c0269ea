import ContainerFleet.Container.Record
import ContainerFleet.Policy

/-!
What an update run does with one container.
-/

namespace ContainerFleet

inductive SkipReason where
  | notOptedIn
  | disabled
deriving DecidableEq, Repr

namespace SkipReason

def message : SkipReason → String
  | .notOptedIn => "not opted in"
  | .disabled => "updates disabled by label"

end SkipReason

inductive Classification where
  | skip (reason : SkipReason)
  /-- The program's own container, which has to wait until all others are done. -/
  | deferSelf
  | eligible
deriving DecidableEq, Repr

/-- The first rule that applies decides: the program's own container on its own host waits unless
the policy allows it; where opting in is asked for, containers without the label are skipped; so
are containers with updates switched off, unless forced. -/
def LabelSet.classify (labels : LabelSet) (policy : UpdatePolicy) (onLocalHost : Bool) :
    Classification :=
  if labels.isSelfContainer && onLocalHost && !policy.allowSelfUpdate then .deferSelf
  else if policy.optInOnly && !labels.isOptedIn then .skip .notOptedIn
  else if labels.isUpdateDisabled && !policy.forceUpdate then .skip .disabled
  else .eligible

def ContainerRecord.classify (c : ContainerRecord) (policy : UpdatePolicy) (onLocalHost : Bool) :
    Classification :=
  c.updateLabels.classify policy onLocalHost

end ContainerFleet
