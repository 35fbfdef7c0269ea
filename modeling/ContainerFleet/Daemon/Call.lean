import ContainerFleet.Container.Record
import ContainerFleet.Container.Spec
import ContainerFleet.Daemon.Error
import ContainerFleet.Timestamp.Moment

/-!
The calls to a daemon that the fleet and its updates need, and what they answer.
-/

namespace ContainerFleet

open ContainerFleet.Text

/-- How a daemon identifies itself. -/
structure DaemonInfo where
  name : String
  kernelVersion : String
  serverVersion : String
deriving DecidableEq, Repr

/-- Everything that matters about one container. -/
structure ContainerDetails where
  id : String
  /-- The name without a leading slash. -/
  name : String
  /-- The reference that the container was created from. -/
  image : String
  /-- The id of the image that it runs. -/
  imageId : String
  running : Bool
  startedAt : Option Moment
  labels : Map String String
  /-- What an equal container is created from. -/
  spec : ContainerSpec
deriving Repr

namespace ContainerDetails

/-- How long a running container has been up. -/
def uptime? (c : ContainerDetails) (now : Moment) : Option Duration :=
  if c.running then c.startedAt.bind fun start => Moment.elapsed? start now else none

end ContainerDetails

/-- What is known about an image on the host. -/
structure ImageDetails where
  id : String
  /-- The digests under which the image was pulled, each with its repository. -/
  repoDigests : List String
deriving DecidableEq, Repr

/-- The images that were removed because nothing uses them. -/
structure Pruned where
  deleted : List String
  spaceReclaimed : Nat
deriving DecidableEq, Repr

inductive DaemonCall where
  | info
  /-- The containers of the host, those that do not run included or not. -/
  | list (all : Bool)
  | inspect (id : String)
  | create (name : String) (spec : ContainerSpec)
  | start (id : String)
  /-- Stops a container; after the given time it is killed. -/
  | stop (id : String) (timeout : Duration)
  | remove (id : String)
  | rename (id name : String)
  /-- The local image that a reference stands for. -/
  | image (reference : String)
  /-- The ids of all images on the host. -/
  | imageIds
  /-- The digest that the registry serves for a reference. -/
  | registryDigest (reference : String)
  | pull (reference : String)
  /-- Removes the images that have no tag and that no container uses. -/
  | prune
deriving Repr

namespace DaemonCall

/-- What a call that succeeds answers. -/
def Answer : DaemonCall → Type
  | info => DaemonInfo
  | list _ => List ContainerRecord
  | inspect _ => ContainerDetails
  | create _ _ => String
  | start _ => Unit
  | stop _ _ => Unit
  | remove _ => Unit
  | rename _ _ => Unit
  | image _ => ImageDetails
  | imageIds => List String
  | registryDigest _ => String
  | pull _ => Unit
  | prune => Pruned

abbrev Reply (call : DaemonCall) : Type :=
  Except DaemonError call.Answer

/-- A call as one line of a log. -/
def toText : DaemonCall → String
  | info => "info"
  | list true => "list:all"
  | list false => "list:running"
  | inspect id => "inspect:" ++ id
  | create name _ => "create:" ++ name
  | start id => "start:" ++ id
  | stop id timeout => "stop:" ++ id ++ ":" ++ String.ofList (Decimal.write timeout.inMillis)
  | remove id => "remove:" ++ id
  | rename id name => "rename:" ++ id ++ ":" ++ name
  | image reference => "image:" ++ reference
  | imageIds => "images"
  | registryDigest reference => "registry:" ++ reference
  | pull reference => "pull:" ++ reference
  | prune => "prune"

/-- Whether a call can change a container or an image reference. -/
def changesContainers : DaemonCall → Bool
  | create _ _ => true
  | start _ => true
  | stop _ _ => true
  | remove _ => true
  | rename _ _ => true
  | pull _ => true
  | _ => false

end DaemonCall

end ContainerFleet
