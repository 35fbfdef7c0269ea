import ContainerFleet.Config.Environment
import ContainerFleet.Json.Record

/-!
How one remote machine is reached.
-/

namespace ContainerFleet

open ContainerFleet.Text

structure MachineProfile where
  /-- The address, with or without a port. -/
  address : String
  username : String
  privateKeyPath : String
  /-- The fingerprint that the machine's key must have; any will do when there is none. -/
  hostKey : Option String
  /-- A machine that is not enabled is never connected to. -/
  enabled : Bool
  notes : Option String
deriving DecidableEq, Repr

namespace MachineProfile

/-- Whether a text is a port: digits after an optional plus sign, at most 65535. -/
def isPort (s : List Char) : Bool :=
  let digits :=
    match s with
    | '+' :: rest => rest
    | s => s
  match Decimal.read? digits with
  | some n => n < 65536
  | none => false

/-- The text after the last colon. -/
def afterLastColon? (s : List Char) : Option (List Char) :=
  if s.contains ':' then some (s.reverse.takeWhile (· != ':')).reverse else none

def defaultPort : String := ":22"

/-- An address with a port: the one it has, or that of SSH. -/
def completeAddress (address : String) : String :=
  if (afterLastColon? address.toList).any isPort then address else address ++ defaultPort

def socketAddress (m : MachineProfile) : String :=
  completeAddress m.address

def fieldNames : List String :=
  ["address", "username", "private_key_path", "host_key", "enabled", "notes"]

def ofJson? (how : Json.Strictness) (env : Environment) (v : Json) : Option MachineProfile := do
  let r ← v.record? how fieldNames
  return {
    address := ← r.required? "address" Json.str?
    username := ← r.required? "username" Json.str?
    privateKeyPath := ← r.defaulted? "private_key_path" env.defaultKeyPath Json.str?
    hostKey := ← r.defaulted? "host_key" none (Json.nullable? Json.str?)
    enabled := ← r.defaulted? "enabled" true Json.bool?
    notes := ← r.defaulted? "notes" none (Json.nullable? Json.str?)
  }

def toJson (m : MachineProfile) : Json :=
  .obj [("address", .str m.address), ("username", .str m.username),
    ("private_key_path", .str m.privateKeyPath), ("host_key", .ofOption .str m.hostKey),
    ("enabled", .bool m.enabled), ("notes", .ofOption .str m.notes)]

end MachineProfile

end ContainerFleet
