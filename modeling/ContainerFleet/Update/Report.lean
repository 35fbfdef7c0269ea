import ContainerFleet.Text.Decimal
import ContainerFleet.Text.Table
import ContainerFleet.Update.Classification

/-!
What one update run did on one host, and how it is shown.
-/

namespace ContainerFleet

open ContainerFleet.Text

/-- What happened to one container. -/
inductive Outcome where
  | skipped (reason : SkipReason)
  | deferredSelf
  | upToDate
  /-- A newer image was recorded. -/
  | notified (updateRef : String)
  | updated (newId : String)
  /-- The replacement failed and the old container runs again. -/
  | rolledBack (reason : String)
  | failed (reason : String)
deriving DecidableEq, Repr

namespace Outcome

def label : Outcome → String
  | .skipped _ => "skipped"
  | .deferredSelf => "deferred"
  | .upToDate => "up to date"
  | .notified _ => "update available"
  | .updated _ => "updated"
  | .rolledBack _ => "rolled back"
  | .failed _ => "failed"

def detail : Outcome → String
  | .skipped reason => reason.message
  | .notified updateRef => updateRef
  | .updated newId => String.ofList (newId.toList.take 12)
  | .rolledBack reason => reason
  | .failed reason => reason
  | .deferredSelf => ""
  | .upToDate => ""

def isUpdated : Outcome → Bool
  | .updated _ => true
  | _ => false

/-- Whether a container was rolled back or failed. -/
def isFailure : Outcome → Bool
  | .rolledBack _ => true
  | .failed _ => true
  | _ => false

end Outcome

structure ContainerReport where
  id : String
  name : String
  image : String
  outcome : Outcome
deriving DecidableEq, Repr

/-- What became of the program's own container after the run. -/
inductive SelfUpdate where
  | notDeferred
  | upToDate
  | notified
  /-- The helper took the request. -/
  | triggered
  | cancelled
  | failed (reason : String)
deriving DecidableEq, Repr

structure PruneSummary where
  deleted : List String
  spaceReclaimed : Nat
  error : Option String
deriving DecidableEq, Repr

structure UpdateReport where
  host : String
  containers : List ContainerReport
  /-- Nothing when the run was cancelled before images were pruned. -/
  prune : Option PruneSummary
  selfUpdate : SelfUpdate
  cancelled : Bool
deriving DecidableEq, Repr

namespace UpdateReport

def updated (r : UpdateReport) : Nat :=
  r.containers.countP fun c => c.outcome.isUpdated

def failed (r : UpdateReport) : Nat :=
  r.containers.countP fun c => c.outcome.isFailure

/-- What happened to the container with this name. -/
def outcome? (r : UpdateReport) (name : String) : Option Outcome :=
  (r.containers.find? fun c => c.name = name).map ContainerReport.outcome

/-- The text, or its start and three dots when it is longer than a limit. -/
def truncate (limit : Nat) (s : List Char) : List Char :=
  if s.length ≤ limit then s else s.take (limit - 3) ++ ['.', '.', '.']

/-- How long a detail may be in a table. -/
def detailLimit : Nat := 60

end UpdateReport

/-! Sizes in bytes for people: one decimal place from 1024 bytes on. -/

namespace ByteSize

/-- The nearest integer to a ratio; a half goes to the even one. -/
def roundDiv (num den : Nat) : Nat :=
  let q := num / den
  let r := num % den
  if 2 * r < den then q
  else if den < 2 * r then q + 1
  else if q % 2 = 0 then q else q + 1

/-- A number of bytes with 53 leading binary digits, the rest rounded away. -/
def leading (bytes : Nat) : Nat :=
  let excess := bytes.log2 - 52
  roundDiv bytes (Nat.pow 2 excess) * Nat.pow 2 excess

/-- A unit with its size. -/
def unitOf (bytes : Nat) : String × Nat :=
  if bytes < 1048576 then ("KiB", 1024)
  else if bytes < 1073741824 then ("MiB", 1048576)
  else ("GiB", 1073741824)

def toText (bytes : Nat) : String :=
  let value := leading bytes
  if value < 1024 then String.ofList (Decimal.write bytes) ++ " B"
  else
    let (unit, size) := unitOf value
    let tenths := roundDiv (value * 10) size
    String.ofList (Decimal.write (tenths / 10) ++ '.' :: Decimal.write (tenths % 10)) ++ " " ++ unit

end ByteSize

namespace PruneSummary

def line (p : PruneSummary) : String :=
  match p.error with
  | some error => s!"Prune failed: {error}\n"
  | none =>
    s!"Pruned {String.ofList (Decimal.write p.deleted.length)} images, " ++
      s!"reclaimed {ByteSize.toText p.spaceReclaimed}\n"

end PruneSummary

namespace SelfUpdate

def line : SelfUpdate → String
  | .notDeferred => ""
  | .upToDate => "Self-update: up to date\n"
  | .notified => "Self-update: update available\n"
  | .triggered => "Self-update: handed to sidecar\n"
  | .cancelled => "Self-update: cancelled\n"
  | .failed reason => s!"Self-update failed: {reason}\n"

end SelfUpdate

namespace UpdateReport

def tableHeading : List String :=
  ["CONTAINER", "IMAGE", "RESULT", "DETAIL"]

def tableRow (c : ContainerReport) : List String :=
  [c.name, c.image, c.outcome.label,
    String.ofList (truncate detailLimit c.outcome.detail.toList)]

/-- The report as lines for a terminal. -/
def toText (r : UpdateReport) : String :=
  let containers :=
    if r.containers.isEmpty then "No containers processed\n"
    else
      String.ofList (table roundedFrame tableHeading (r.containers.map tableRow)) ++ "\n"
  s!"Host: {r.host}\n" ++ containers ++ (r.prune.map PruneSummary.line).getD "" ++
    r.selfUpdate.line ++
    (if r.cancelled then "Update cancelled before all containers were processed\n" else "")

end UpdateReport

end ContainerFleet
