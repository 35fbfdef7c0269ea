import ContainerFleet.Duration.Text
import ContainerFleet.Label
import ContainerFleet.Update.Request

/-!
Whether a container that was just started is healthy, as far as its labels say what healthy means:
it has to stay up for some time, or to answer at an address. Both checks go on at the same time,
both are waited for, and neither is cut short when the run is cancelled.
-/

namespace ContainerFleet

inductive HealthError where
  | uptime (reason : String)
  | ping (reason : String)
  | both (uptime ping : String)
  /-- The wait before the uptime check is longer than a span of time can be. -/
  | aborted
deriving DecidableEq, Repr

namespace HealthError

def message : HealthError → String
  | .uptime reason => "uptime check failed: " ++ reason
  | .ping reason => "ping check failed: " ++ reason
  | .both first second => "uptime check failed: " ++ first ++ "; ping check failed: " ++ second
  | .aborted => "health check task aborted: the required uptime is too long"

end HealthError

/-- What a check says: nothing when it passed, or why it did not. -/
abbrev Verdict : Type :=
  Except String Unit

namespace Health

/-- How long an address may take to answer. -/
def pingTimeout : Duration := .short 10

/-- Judges a container by its uptime. -/
def judgeUptime (required : Duration) (details : Except DaemonError ContainerDetails)
    (now : Moment) : Verdict :=
  match details with
  | .error e => .error ("inspecting container: " ++ e.message)
  | .ok c =>
    if c.running then
      match c.uptime? now with
      | none => .error "container start time unknown"
      | some uptime =>
        if uptime.inNanos < required.inNanos then
          .error ("container up for " ++ uptime.wholeSecs.toText ++ ", required " ++ required.toText)
        else .ok ()
    else .error "container is not running"

/-- Judges an address by its answer. -/
def judgePing (url : String) (reply : HttpReply) : Verdict :=
  match reply.status with
  | .error failure => .error ("GET " ++ url ++ ": " ++ failure.message)
  | .ok status =>
    if HttpReply.isSuccess status then .ok ()
    else .error ("GET " ++ url ++ " returned " ++ HttpReply.statusText status)

/-- Something that is asked once, after a wait. The answer comes with the time it took. -/
structure Check where
  due : Moment
  ask : UpdateProgram (Verdict × Duration)

namespace Check

def uptime (id : String) (required : Duration) (due : Moment) : Check where
  due := due
  ask := do
    let details ← UpdateProgram.inspect id
    let now ← UpdateProgram.now
    return (judgeUptime required details now, Duration.zero)

def ping (url : String) (due : Moment) : Check where
  due := due
  ask := do
    let reply ← UpdateProgram.get url pingTimeout
    return (judgePing url reply, reply.took)

/-- Waits until a check is due and asks; answers the verdict and when it came. -/
def perform (c : Check) : UpdateProgram (Verdict × Moment) := do
  UpdateProgram.sleepUntil c.due
  let (verdict, took) ← c.ask
  return (verdict, c.due + took.inNanos)

/-- One check alone. -/
def run (c : Check) : UpdateProgram Verdict := do
  let (verdict, finish) ← c.perform
  UpdateProgram.sleepUntil finish
  return verdict

/-- Two checks at the same time: the one that is due first asks first, and both are waited for. -/
def runBoth (a b : Check) : UpdateProgram (Verdict × Verdict) :=
  if a.due ≤ b.due then do
    let (x, xFinish) ← a.perform
    let (y, yFinish) ← b.perform
    UpdateProgram.sleepUntil (max xFinish yFinish)
    return (x, y)
  else do
    let (y, yFinish) ← b.perform
    let (x, xFinish) ← a.perform
    UpdateProgram.sleepUntil (max xFinish yFinish)
    return (x, y)

end Check

/-- The verdicts of both checks as one result. -/
def combine (uptime ping : Verdict) : Except HealthError Unit :=
  match uptime, ping with
  | .ok (), .ok () => .ok ()
  | .error u, .ok () => .error (.uptime u)
  | .ok (), .error p => .error (.ping p)
  | .error u, .error p => .error (.both u p)

/-- When the uptime of a container is looked at: half again as long after the start as it has to
be up. None when no span is that long. -/
def uptimeDue? (start : Moment) (required : Duration) : Option Moment :=
  required.timesOneAndHalf?.map start.after

/-- Checks a container by its labels; a check without a label passes. -/
def check (id : String) (labels : LabelSet) : UpdateProgram (Except HealthError Unit) := do
  let start ← UpdateProgram.now
  let ping := labels.ping?.map fun (url, delay) => Check.ping url (start.after delay)
  match labels.requiredUptime? with
  | none =>
    match ping with
    | none => return .ok ()
    | some ping => return combine (.ok ()) (← ping.run)
  | some required =>
    match uptimeDue? start required, ping with
    | some due, none => return combine (← (Check.uptime id required due).run) (.ok ())
    | some due, some ping =>
      let (uptime, ping) ← (Check.uptime id required due).runBoth ping
      return combine uptime ping
    | none, none => return .error .aborted
    | none, some ping =>
      let _ ← ping.run
      return .error .aborted

end Health

end ContainerFleet
