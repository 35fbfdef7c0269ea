import ContainerFleet.Host.Kind
import ContainerFleet.Text.Table
import ContainerFleet.Timestamp.Text

/-!
The connected hosts as a table.
-/

namespace ContainerFleet

open ContainerFleet.Text

/-- What is shown of a connected host. -/
structure HostLine where
  name : String
  kind : HostKind
  verified : Timestamp
deriving DecidableEq, Repr

namespace HostLine

def heading : List String :=
  ["HOST", "TRANSPORT", "VERIFIED", "DEFAULT"]

def row (default : Option String) (h : HostLine) : List String :=
  [h.name, h.kind.name, h.verified.toPlainText, if default = some h.name then "*" else ""]

/-- The table of hosts; the default one has a star. -/
def listing (hosts : List HostLine) (default : Option String) : String :=
  if hosts.isEmpty then "No hosts connected"
  else String.ofList (table roundedFrame heading (hosts.map (row default)))

end HostLine

end ContainerFleet
