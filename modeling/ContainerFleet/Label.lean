import ContainerFleet.Duration.Text
import ContainerFleet.Map

/-!
The labels by which the owner of a container steers its updates. `LabelSet.ofRaw` is the one place
that looks at raw label texts; a malformed value switches off what it controls and nothing else.
-/

namespace ContainerFleet

open ContainerFleet.Text

/-- A recognised and well-formed label. -/
inductive Label where
  | selfContainer
  | updateDisabled
  | optIn
  | healthUptime (required : Duration)
  | healthPing (url : String) (delay : Duration)
deriving DecidableEq, Repr

namespace Label

/-- Marks the container that this program itself runs in. -/
def selfKey : String := "dockman.container"

/-- Takes a container out of updates. -/
def disableKey : String := "dockman.update.disable"

/-- Puts a container in when only such containers are updated; any value will do. -/
def optInKey : String := "dockman.update"

/-- The uptime that a replacement has to reach. -/
def uptimeKey : String := "dockman.update.healthcheck.uptime"

/-- The address that a replacement has to answer at. -/
def pingKey : String := "dockman.update.healthcheck.ping"

/-- How long to wait before that address is asked. -/
def pingDelayKey : String := "dockman.update.healthcheck.time"

/-- Whether a value says `true`, in any case and with blanks around it. -/
def isTrue (value : String) : Bool :=
  (trim value.toList).map Char.toLower == ['t', 'r', 'u', 'e']

/-- The address in a value, when it names the scheme `http` or `https`. -/
def httpUrl? (value : String) : Option String :=
  let url := trim value.toList
  if "http://".toList.isPrefixOf url || "https://".toList.isPrefixOf url then
    some (String.ofList url)
  else none

end Label

/-- The well-formed labels of one container, each kind at most once, in a fixed order. -/
structure LabelSet where
  labels : List Label
deriving DecidableEq, Repr

namespace LabelSet

open Label

/-- The label that a raw value stands for, kind by kind. -/
def selfContainer? (raw : Map String String) : Option Label :=
  if (raw.get? selfKey).any isTrue then some .selfContainer else none

def updateDisabled? (raw : Map String String) : Option Label :=
  if (raw.get? disableKey).any isTrue then some .updateDisabled else none

def optIn? (raw : Map String String) : Option Label :=
  if raw.contains optInKey then some .optIn else none

def healthUptime? (raw : Map String String) : Option Label := do
  let required ← Duration.ofText? (← raw.get? uptimeKey)
  return .healthUptime required

def healthPing? (raw : Map String String) : Option Label := do
  let url ← httpUrl? (← raw.get? pingKey)
  let delay ← Duration.ofText? (← raw.get? pingDelayKey)
  return .healthPing url delay

def ofRaw (raw : Map String String) : LabelSet :=
  ⟨[selfContainer? raw, updateDisabled? raw, optIn? raw, healthUptime? raw,
    healthPing? raw].filterMap id⟩

def isEmpty (s : LabelSet) : Bool :=
  s.labels.isEmpty

def isSelfContainer (s : LabelSet) : Bool :=
  s.labels.contains .selfContainer

def isUpdateDisabled (s : LabelSet) : Bool :=
  s.labels.contains .updateDisabled

def isOptedIn (s : LabelSet) : Bool :=
  s.labels.contains .optIn

/-- The uptime that a replacement has to reach. -/
def requiredUptime? (s : LabelSet) : Option Duration :=
  s.labels.findSome? fun
    | .healthUptime required => some required
    | _ => none

/-- The address to ask and how long to wait before. -/
def ping? (s : LabelSet) : Option (String × Duration) :=
  s.labels.findSome? fun
    | .healthPing url delay => some (url, delay)
    | _ => none

end LabelSet

end ContainerFleet
