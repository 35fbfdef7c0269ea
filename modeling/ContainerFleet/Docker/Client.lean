import ContainerFleet.Daemon.Call
import ContainerFleet.Docker.Spec
import ContainerFleet.Http.Network
import ContainerFleet.Json.Reader
import ContainerFleet.Program
import ContainerFleet.Timestamp.Text

/-!
The calls to a daemon as requests of Docker's API, and its answers read back.
-/

namespace ContainerFleet.Docker

open ContainerFleet.Text

/-- A request, its path without the version of the API. -/
structure ApiRequest where
  method : String
  path : String
  query : List (String × String)
  body : Option Json

structure ApiResponse where
  status : Nat
  body : List Char
deriving DecidableEq, Repr

/-- What may be asked of a connection to the API. There is no response when the connection does not
work. -/
def apiInterface : Interface := ⟨ApiRequest, fun _ => Option ApiResponse⟩

abbrev ApiProgram (α : Type) : Type :=
  Program apiInterface α

/-- Sends a request. What an address cannot hold is percent-encoded in the path. -/
def send (method path : String) (query : List (String × String)) (body : Option Json) :
    ApiProgram (Option ApiResponse) :=
  let plain := path.toList.takeWhile fun c => c != '?' && c != '#'
  Program.call (I := apiInterface) ⟨method, String.ofList (Url.path plain), query, body⟩

/-- Why the daemon answered with an error. -/
def refusal (r : ApiResponse) : ApiFailure :=
  match (Json.parse? r.body).bind apiError.project? with
  | some v =>
    match (v.field? "message").bind Json.str? with
    | some message => .refused r.status message
    | none => .refusedBare r.status (String.ofList r.body)
  | none => .refusedBare r.status (String.ofList r.body)

/-- The response, unless it is an error. -/
def accepted (response : Option ApiResponse) : Except DaemonError ApiResponse :=
  match response with
  | none => .error (.api .unusable)
  | some r => if HttpReply.isSuccess r.status then .ok r else .error (.api (refusal r))

/-- A response of which nothing is read. -/
def discard (response : Option ApiResponse) : Except DaemonError Unit :=
  (accepted response).map fun _ => ()

/-- The answer in a response, which has to have a shape. -/
def answer (shape : Shape) (response : Option ApiResponse) : Except DaemonError Json := do
  let r ← accepted response
  match (Json.parse? r.body).bind shape.project? with
  | some v => return v
  | none => .error (.api .unusable)

def textField (v : Json) (name : String) : Option String :=
  (v.field? name).bind Json.str?

def textsField (v : Json) (name : String) : List String :=
  (((v.field? name).bind Json.arr?).getD []).filterMap Json.str?

def labelsField (v : Json) (name : String) : Map String String :=
  (((v.field? name).bind Json.obj?).getD []).filterMap fun entry =>
    entry.2.str?.map (entry.1, ·)

/-- A name without the slashes in front. -/
def plainName (name : String) : String :=
  String.ofList (name.toList.dropWhile (· == '/'))

def flagText (b : Bool) : String :=
  if b then "true" else "false"

def infoOf (v : Json) : DaemonInfo where
  name := (textField v "Name").getD ""
  kernelVersion := (textField v "KernelVersion").getD ""
  serverVersion := (textField v "ServerVersion").getD ""

/-- A line of a listing; one without an id is left out. A container without a name is called by its
id. -/
def recordOf? (v : Json) : Option ContainerRecord := do
  let id ← textField v "Id"
  return {
    id := id
    name := ((textsField v "Names").head?.map plainName).getD id
    image := (textField v "Image").getD ""
    imageId := (textField v "ImageID").getD ""
    labels := labelsField v "Labels"
    state := textField v "State"
  }

/-- The details in an inspection of a container that was asked for by a name or an id. -/
def detailsOf (asked : String) (v : Json) : ContainerDetails :=
  let state := (v.field? "State").getD .null
  let config := (v.field? "Config").getD .null
  let spec := ContainerSpec.ofInspection v
  { id := (textField v "Id").getD asked
    name := ((textField v "Name").map plainName).getD ""
    image := spec.image?.getD ""
    imageId := (textField v "Image").getD ""
    running := ((state.field? "Running").bind Json.bool?).getD false
    startedAt := ((textField state "StartedAt").bind Timestamp.ofExactText?).map Timestamp.sinceEpoch
    labels := labelsField config "Labels"
    spec := spec }

def imageOf (reference : String) (v : Json) : Except DaemonError ImageDetails :=
  match textField v "Id" with
  | some id => .ok ⟨id, textsField v "RepoDigests"⟩
  | none => .error (.unexpected ("image " ++ reference ++ " has no ID"))

def digestOf (reference : String) (v : Json) : Except DaemonError String :=
  match (v.field? "Descriptor").bind fun d => textField d "digest" with
  | some digest => .ok digest
  | none => .error (.unexpected ("registry returned no digest for " ++ reference))

def prunedOf (v : Json) : Pruned where
  deleted := (((v.field? "ImagesDeleted").bind Json.arr?).getD []).filterMap fun item =>
    textField item "Deleted"
  spaceReclaimed := (((v.field? "SpaceReclaimed").bind Json.int?).getD 0).toNat

/-- Reads the events of a pull, one a line. An error among them is the end of it. -/
def readEvents : List (List Char) → Except DaemonError Unit
  | [] => .ok ()
  | line :: rest =>
    if line.all fun c => c == ' ' || c == '\r' || c == '\t' then readEvents rest
    else
      match (Json.parse? line).bind pullEvent.project? with
      | none => .error (.api .unusable)
      | some event =>
        match textField event "error" with
        | some message => .error (.api (.interrupted message))
        | none => readEvents rest

def pulled (response : Option ApiResponse) : Except DaemonError Unit := do
  let r ← accepted response
  readEvents (r.body.splitOn '\n')

/-- The seconds of a span as Docker takes them, a signed number of 64 bits. -/
def stopSeconds (timeout : Duration) : Int :=
  Int.bmod timeout.secs 18446744073709551616

def stopQuery (timeout : Duration) : List (String × String) :=
  let seconds := stopSeconds timeout
  let digits := String.ofList (Decimal.write seconds.natAbs)
  [("t", if seconds < 0 then "-" ++ digits else digits)]

/-- Carries out one call by the API. -/
def perform : (call : DaemonCall) → ApiProgram call.Reply
  | .info => do
    return (answer systemInfo (← send "GET" "/info" [] none)).map infoOf
  | .list all => do
    let query := [("all", flagText all), ("filters", "\x7b\x7d"), ("size", "false")]
    let response ← send "GET" "/containers/json" query none
    return (answer containerSummaries response).map fun v =>
      ((v.arr?).getD []).filterMap recordOf?
  | .inspect id => do
    let response ← send "GET" ("/containers/" ++ id ++ "/json") [] none
    return (answer inspection response).map (detailsOf id)
  | .create name spec => do
    let response ← send "POST" "/containers/create" [("name", name)] (some spec.toJson)
    return (answer created response).map fun v => (textField v "Id").getD ""
  | .start id => do
    return discard (← send "POST" ("/containers/" ++ id ++ "/start") [] none)
  | .stop id timeout => do
    return discard (← send "POST" ("/containers/" ++ id ++ "/stop") (stopQuery timeout) none)
  | .remove id => do
    let query := [("force", "true"), ("link", "false"), ("v", "false")]
    return discard (← send "DELETE" ("/containers/" ++ id) query none)
  | .rename id name => do
    return discard (← send "POST" ("/containers/" ++ id ++ "/rename") [("name", name)] none)
  | .image reference => do
    let response ← send "GET" ("/images/" ++ reference ++ "/json") [] none
    return (answer imageInspection response).bind (imageOf reference)
  | .imageIds => do
    let query := [("all", "false"), ("digests", "false"), ("filters", "\x7b\x7d")]
    let response ← send "GET" "/images/json" query none
    return (answer imageSummaries response).map fun v =>
      ((v.arr?).getD []).filterMap fun image => textField image "Id"
  | .registryDigest reference => do
    let response ← send "GET" ("/distribution/" ++ reference ++ "/json") [] none
    return (answer distribution response).bind (digestOf reference)
  | .pull reference => do
    let query := [("fromImage", reference), ("fromSrc", ""), ("platform", ""), ("repo", ""),
      ("tag", "")]
    return pulled (← send "POST" "/images/create" query none)
  | .prune => do
    let response ← send "POST" "/images/prune" [("filters", "\x7b\"dangling\":[\"true\"]\x7d")] none
    return (answer pruned response).map prunedOf

end ContainerFleet.Docker
