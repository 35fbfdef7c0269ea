import ContainerFleet.Error
import ContainerFleet.Program
import ContainerFleet.Text.Decimal

/-!
The two ways to a daemon behind an SSH session.
-/

namespace ContainerFleet

open ContainerFleet.Text

/-- Where a daemon listens. -/
inductive DaemonRoute where
  | socket (path : String)
  | tcp (host : String) (port : Nat)
deriving DecidableEq, Repr

namespace DaemonRoute

def portText (port : Nat) : String :=
  String.ofList (Decimal.write port)

def toText : DaemonRoute → String
  | .socket path => "unix://" ++ path
  | .tcp host port => "tcp://" ++ host ++ ":" ++ portText port

/-- The host as seen from the far end of the session. -/
def loopback : String := "127.0.0.1"

end DaemonRoute

/-- A channel that is opened through an SSH session. -/
inductive Channel where
  | socket (path : String)
  | tcp (host : String) (port : Nat)
deriving DecidableEq, Repr

namespace Channel

def toText : Channel → String
  | .socket path => "unix:" ++ path
  | .tcp host port => "tcp:" ++ host ++ ":" ++ DaemonRoute.portText port

end Channel

/-- What may be asked of an SSH session: to open a channel. -/
def sessionInterface : Interface := ⟨Channel, fun _ => Except ConnectionError Unit⟩

namespace DaemonRoute

def channel : DaemonRoute → Channel
  | .socket path => .socket path
  | .tcp host port => .tcp host port

/-- The address of the port that is tried when the socket cannot be reached. -/
def fallbackAddress (port : Nat) : String :=
  loopback ++ ":" ++ portText port

def openChannel (route : DaemonRoute) : Program sessionInterface (Except ConnectionError Unit) :=
  Program.call (I := sessionInterface) route.channel

/-- Finds the way to a daemon: its socket, or else its port. -/
def resolve (host socketPath : String) (port : Nat) :
    Program sessionInterface (Except ConnectionError DaemonRoute) := do
  match ← (socket socketPath).openChannel with
  | .ok () => return .ok (.socket socketPath)
  | .error socketError =>
    match ← (tcp loopback port).openChannel with
    | .ok () => return .ok (.tcp loopback port)
    | .error tcpError =>
      return .error (.dial host socketPath socketError.message (fallbackAddress port)
        tcpError.message)

end DaemonRoute

/-- A far end whose channels fail with these reasons, or open when there is none. -/
structure FarEnd where
  socketError : Option String
  tcpError : Option String
  /-- The channels that were tried. -/
  tried : List Channel
deriving DecidableEq, Repr

namespace FarEnd

def handle (channel : Channel) (f : FarEnd) : Except ConnectionError Unit × FarEnd :=
  let error :=
    match channel with
    | .socket _ => f.socketError
    | .tcp _ _ => f.tcpError
  (match error with
    | none => .ok ()
    | some reason => .error (.tunnel reason),
    { f with tried := f.tried ++ [channel] })

end FarEnd

end ContainerFleet
