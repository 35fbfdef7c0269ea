import ContainerFleet.Update.Request

/-!
The helper next to this program that replaces the program's own container when asked to.
-/

namespace ContainerFleet

open ContainerFleet.Text

inductive SidecarError where
  | request (url : String) (failure : HttpFailure)
  | status (url : String) (code : Nat)
deriving DecidableEq, Repr

namespace SidecarError

def message : SidecarError → String
  | .request url failure => "sidecar request to " ++ url ++ " failed: " ++ failure.message
  | .status url code => "sidecar at " ++ url ++ " answered " ++ String.ofList (Decimal.write code)

end SidecarError

namespace Sidecar

/-- How long the helper may take to answer. -/
def timeout : Duration := .short 30

/-- A text without the slashes at its end. -/
def trimSlashes (s : String) : String :=
  String.ofList (s.toList.reverse.dropWhile (· == '/')).reverse

/-- The address that stands for a container. -/
def address (baseUrl id : String) : String :=
  trimSlashes baseUrl ++ "/" ++ id

/-- Judges the answer of an address. -/
def judge (url : String) (reply : HttpReply) : Except SidecarError Unit :=
  match reply.status with
  | .error failure => .error (.request url failure)
  | .ok code => if HttpReply.isSuccess code then .ok () else .error (.status url code)

/-- Asks the helper to replace a container. -/
def trigger (baseUrl id : String) : UpdateProgram (Except SidecarError Unit) := do
  let start ← UpdateProgram.now
  let reply ← UpdateProgram.get (address baseUrl id) timeout
  UpdateProgram.sleepUntil (start.after reply.took)
  return judge (address baseUrl id) reply

end Sidecar

end ContainerFleet
