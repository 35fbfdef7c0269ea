import ContainerFleet.Docker.Client
import ContainerFleet.Json.Writer

/-!
A Docker API that answers as scripted, and a log of its requests.
-/

namespace ContainerFleet.Docker

open ContainerFleet.Text

structure ApiScript where
  /-- Responses, each for one kind of request; of several for one kind each is given once, and the
  last one repeats. -/
  responses : List (String × ApiResponse)
  requests : List ApiRequest

namespace ApiRequest

/-- Method and path. -/
def line (q : ApiRequest) : String :=
  q.method ++ " " ++ q.path

end ApiRequest

namespace ApiScript

/-- The response to a kind of request for which there is none. -/
def missing (line : String) : ApiResponse :=
  ⟨404, (Json.obj [("message", .str ("no response for " ++ line))]).compress⟩

def responseFor (s : ApiScript) (line : String) : ApiResponse :=
  let matching := (s.responses.filter fun entry => entry.1 = line).map Prod.snd
  let before := s.requests.countP fun q => q.line = line
  (matching[before]?.or matching.getLast?).getD (missing line)

def handle (q : ApiRequest) (s : ApiScript) : Option ApiResponse × ApiScript :=
  (some (s.responseFor q.line), { s with requests := s.requests ++ [q] })

end ApiScript

end ContainerFleet.Docker
