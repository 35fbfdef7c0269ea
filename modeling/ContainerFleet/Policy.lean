import ContainerFleet.Json.Record

/-!
The choices of one update run.
-/

namespace ContainerFleet

structure UpdatePolicy where
  /-- The program's own container may be replaced like any other. -/
  allowSelfUpdate : Bool
  /-- The label that switches updates off is ignored. -/
  forceUpdate : Bool
  /-- Newer images are recorded and nothing is changed. -/
  notifyOnly : Bool
  /-- Only containers with the opt-in label are considered. -/
  optInOnly : Bool
deriving DecidableEq, Repr

namespace UpdatePolicy

def plain : UpdatePolicy := ⟨false, false, false, false⟩

instance : Inhabited UpdatePolicy := ⟨plain⟩

/-- The same choices, and the label that switches updates off ignored. -/
def forced (p : UpdatePolicy) : UpdatePolicy :=
  { p with forceUpdate := true }

def ofJson? (v : Json) : Option UpdatePolicy := do
  let r ← v.record? Json.strict
    ["allow_self_update", "force_update", "notify_only", "opt_in_only"]
  return {
    allowSelfUpdate := ← r.required? "allow_self_update" Json.bool?
    forceUpdate := ← r.required? "force_update" Json.bool?
    notifyOnly := ← r.required? "notify_only" Json.bool?
    optInOnly := ← r.required? "opt_in_only" Json.bool?
  }

def toJson (p : UpdatePolicy) : Json :=
  .obj [("allow_self_update", .bool p.allowSelfUpdate), ("force_update", .bool p.forceUpdate),
    ("notify_only", .bool p.notifyOnly), ("opt_in_only", .bool p.optInOnly)]

end UpdatePolicy

end ContainerFleet
