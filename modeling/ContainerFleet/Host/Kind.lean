import ContainerFleet.Json.Record

/-!
The two ways in which a host's daemon is reached.
-/

namespace ContainerFleet

inductive HostKind where
  /-- The daemon of the machine this program runs on. -/
  | local
  /-- A daemon behind an SSH session. -/
  | ssh
deriving DecidableEq, Repr

namespace HostKind

def name : HostKind → String
  | .local => "local"
  | .ssh => "ssh"

def ofJson? (v : Json) : Option HostKind :=
  v.word? [("Local", .local), ("Ssh", .ssh)]

def toJson : HostKind → Json
  | .local => .str "Local"
  | .ssh => .str "Ssh"

end HostKind

end ContainerFleet
