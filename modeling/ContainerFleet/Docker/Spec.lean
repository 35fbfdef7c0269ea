import ContainerFleet.Container.Spec
import ContainerFleet.Docker.Schema

/-!
What a container is created anew from, derived from its inspection. Its settings are taken over as
they are. What the daemon has assigned is left out, so that it is assigned afresh: a hostname that
is the short id, the addresses on each network, and the alias there that is the short id.
-/

namespace ContainerFleet

namespace Docker

/-- How many characters a short id has. -/
def shortIdLength : Nat := 12

def shortId (id : String) : String :=
  String.ofList (id.toList.take shortIdLength)

/-- The part of a network attachment that outlives the container: its aliases without the short id,
and what the user has set. -/
def portableEndpoint (short : String) (endpoint : Json) : Json :=
  let aliases : List Json :=
    match endpoint.field? "Aliases" with
    | some (.arr aliases) => aliases.filter fun a => a.str? != some short
    | _ => []
  let keep (name : String) : List (String × Json) :=
    ((endpoint.given? name).map (name, ·)).toList
  .obj (keep "IPAMConfig" ++ keep "Links" ++
    (if aliases.isEmpty then [] else [("Aliases", .arr aliases)]) ++ keep "DriverOpts")

/-- The settings of an inspected container, without a hostname that the daemon has made up. -/
def portableConfig (short : String) (config : List (String × Json)) : List (String × Json) :=
  config.filter fun entry =>
    !(entry.1 == "Hostname" && short != "" && entry.2.str? == some short)

/-- The attachments of an inspected container to its networks. -/
def networks (inspected : Json) : List (String × Json) :=
  (((inspected.field? "NetworkSettings").bind (Json.field? "Networks")).bind Json.obj?).getD []

end Docker

namespace ContainerSpec

open Docker

/-- What an inspected container is created anew from. -/
def ofInspection (inspected : Json) : ContainerSpec :=
  let short := shortId (((inspected.field? "Id").bind Json.str?).getD "")
  let config := ((inspected.field? "Config").bind Json.obj?).getD []
  let host := ((inspected.field? "HostConfig").map (("HostConfig" : String), ·)).toList
  let attached := (networks inspected).map fun entry => (entry.1, portableEndpoint short entry.2)
  let networking : List (String × Json) :=
    if attached.isEmpty then []
    else [("NetworkingConfig", .obj [("EndpointsConfig", .obj attached)])]
  ⟨portableConfig short config ++ host ++ networking⟩

end ContainerSpec

end ContainerFleet
