import ContainerFleet.Daemon.Call

/-!
A daemon in memory. `MemoryDaemon.perform` says what each call does to it.
-/

namespace ContainerFleet

open ContainerFleet.Text

/-- How the uptime of a container comes about. -/
inductive Uptime where
  /-- It is always the same, in milliseconds, or never known. -/
  | fixed (millis : Option Int)
  /-- It counts from a moment on. -/
  | since (moment : Moment)
deriving DecidableEq, Repr

namespace Uptime

/-- The moment at which a container with this uptime was started. -/
def startedAt? (u : Uptime) (now : Moment) : Option Moment :=
  match u with
  | .fixed millis => millis.map fun ms => now - ms * 1000000
  | .since moment => some moment

end Uptime

structure MemoryContainer where
  id : String
  name : String
  image : String
  /-- Empty when it is not known. -/
  imageId : String
  running : Bool
  uptime : Uptime
  labels : Map String String
  /-- The settings besides image and labels. -/
  settings : ContainerSpec
deriving Repr

namespace MemoryContainer

def spec (c : MemoryContainer) : ContainerSpec :=
  (c.settings.withImage c.image).withLabels c.labels

def details (c : MemoryContainer) (now : Moment) : ContainerDetails where
  id := c.id
  name := c.name
  image := c.image
  imageId := c.imageId
  running := c.running
  startedAt := c.uptime.startedAt? now
  labels := c.labels
  spec := c.spec

/-- Whether an id or a name means this container. -/
def isCalled (key : String) (c : MemoryContainer) : Bool :=
  c.id == key || c.name == key

end MemoryContainer

structure MemoryDaemon where
  containers : List MemoryContainer
  /-- The local images by reference. -/
  images : Map String ImageDetails
  /-- The digests that the registry serves, by reference. -/
  registry : Map String String
  /-- What the next prune removes. -/
  dangling : Pruned
  /-- How many containers have been created. -/
  created : Nat
  /-- The names of containers that exit as soon as they are started. -/
  crashing : List String
  /-- The uptimes that some containers have once they are started, by name. -/
  restartUptimes : Map String (Option Int)
deriving Repr

namespace MemoryDaemon

def empty : MemoryDaemon :=
  ⟨[], [], [], ⟨[], 0⟩, 0, [], []⟩

instance : Inhabited MemoryDaemon := ⟨empty⟩

/-- The first container with this id or name. -/
def find? (d : MemoryDaemon) (key : String) : Option MemoryContainer :=
  d.containers.find? (MemoryContainer.isCalled key)

/-- Changes the first container that a test selects. -/
def modifyFirst (p : MemoryContainer → Bool) (f : MemoryContainer → MemoryContainer) :
    List MemoryContainer → List MemoryContainer
  | [] => []
  | c :: cs => if p c then f c :: cs else c :: modifyFirst p f cs

/-- Changes the first container with this id or name. -/
def modify (d : MemoryDaemon) (key : String) (f : MemoryContainer → MemoryContainer) :
    MemoryDaemon :=
  { d with containers := modifyFirst (MemoryContainer.isCalled key) f d.containers }

/-- The id of the local image of a reference, or nothing. -/
def imageIdOf (d : MemoryDaemon) (reference : String) : String :=
  ((d.images.get? reference).map ImageDetails.id).getD ""

/-- The daemon with the ids of its containers' images filled in where they are not known. -/
def fillImageIds (d : MemoryDaemon) : MemoryDaemon :=
  { d with containers := d.containers.map fun c =>
      if c.imageId = "" then { c with imageId := d.imageIdOf c.image } else c }

/-- The daemon with the containers, images, digests and rules of another one put in. -/
def extend (d more : MemoryDaemon) : MemoryDaemon :=
  fillImageIds
    { d with
      containers := d.containers ++ more.containers
      images := d.images.insertAll more.images
      registry := d.registry.insertAll more.registry
      crashing := d.crashing ++ more.crashing
      restartUptimes := d.restartUptimes.insertAll more.restartUptimes }

/-- A container is listed under its image's id once its reference stands for another image. -/
def listedImage (d : MemoryDaemon) (c : MemoryContainer) : String :=
  match d.images.get? c.image with
  | some image => if image.id ≠ c.imageId ∧ c.imageId ≠ "" then c.imageId else c.image
  | none => c.image

def record (d : MemoryDaemon) (c : MemoryContainer) : ContainerRecord where
  id := c.id
  name := c.name
  image := d.listedImage c
  imageId := c.imageId
  labels := c.labels
  state := some (if c.running then "running" else "exited")

def list (d : MemoryDaemon) (all : Bool) : List ContainerRecord :=
  (d.containers.filter fun c => all || c.running).map d.record

/-- The id of the next container. -/
def nextId (d : MemoryDaemon) : String :=
  "new" ++ String.ofList (Decimal.write (d.created + 1))

/-- The container that a spec makes; it does not run yet. -/
def newContainer (d : MemoryDaemon) (name : String) (spec : ContainerSpec) : MemoryContainer where
  id := d.nextId
  name := name
  image := (spec.image?).getD ""
  imageId := d.imageIdOf ((spec.image?).getD "")
  running := false
  uptime := .fixed none
  labels := spec.labels
  settings := spec

def startedUptime (d : MemoryDaemon) (now : Moment) (c : MemoryContainer) : Uptime :=
  match d.restartUptimes.get? c.name with
  | some millis => .fixed millis
  | none => .since now

/-- A container after it was started. -/
def started (d : MemoryDaemon) (now : Moment) (c : MemoryContainer) : MemoryContainer :=
  { c with running := !d.crashing.contains c.name, uptime := d.startedUptime now c }

/-- A text without some other text at its front, as often as it stands there. -/
def dropFront (front : List Char) (s : List Char) : List Char :=
  if _h : front ≠ [] ∧ front.isPrefixOf s ∧ s ≠ [] then dropFront front (s.drop front.length) else s
termination_by s.length
decreasing_by
  obtain ⟨hf, -, hs⟩ := _h
  have h1 : 0 < front.length := List.length_pos_iff.mpr hf
  have h2 : 0 < s.length := List.length_pos_iff.mpr hs
  simp only [List.length_drop]
  omega

/-- The image that a pull brings. -/
def pulledImage (reference digest : String) : ImageDetails where
  id := "sha256:pulled-" ++ String.ofList (dropFront "sha256:".toList digest.toList)
  repoDigests := [reference ++ "@" ++ digest]

def noContainer (key : String) : DaemonError :=
  .notFound ("container " ++ key)

def noManifest (reference : String) : DaemonError :=
  .notFound ("manifest for " ++ reference)

def nameTaken (name : String) : DaemonError :=
  .unexpected ("name " ++ name ++ " is already in use")

/-- Carries out one call. A call that fails changes nothing. -/
def perform (now : Moment) (call : DaemonCall) (d : MemoryDaemon) : call.Reply × MemoryDaemon :=
  match call with
  | .info => (.ok ⟨"memory", "", ""⟩, d)
  | .list all => (.ok (d.list all), d)
  | .inspect id =>
    match d.find? id with
    | some c => (.ok (c.details now), d)
    | none => (.error (noContainer id), d)
  | .create name spec =>
    if d.containers.any fun c => c.name == name then (.error (nameTaken name), d)
    else
      (.ok d.nextId,
        { d with containers := d.containers ++ [d.newContainer name spec], created := d.created + 1 })
  | .start id =>
    match d.find? id with
    | some _ => (.ok (), d.modify id (d.started now))
    | none => (.error (noContainer id), d)
  | .stop id _ =>
    match d.find? id with
    | some _ => (.ok (), d.modify id fun c => { c with running := false })
    | none => (.error (noContainer id), d)
  | .remove id =>
    if d.containers.any fun c => c.id == id then
      (.ok (), { d with containers := d.containers.eraseP fun c => c.id == id })
    else (.error (noContainer id), d)
  | .rename id name =>
    match d.find? id with
    | some c =>
      if d.containers.any fun other => other.name == name && other.id != c.id then
        (.error (nameTaken name), d)
      else (.ok (), d.modify id fun c => { c with name := name })
    | none =>
      if d.containers.any fun other => other.name == name then (.error (nameTaken name), d)
      else (.error (noContainer id), d)
  | .image reference =>
    match d.images.get? reference with
    | some image => (.ok image, d)
    | none => (.error (.notFound ("image " ++ reference)), d)
  | .imageIds =>
    (.ok ((d.images.mergeSort fun a b => decide (a.1 ≤ b.1)).map fun entry => entry.2.id), d)
  | .registryDigest reference =>
    match d.registry.get? reference with
    | some digest => (.ok digest, d)
    | none => (.error (noManifest reference), d)
  | .pull reference =>
    match d.registry.get? reference with
    | some digest =>
      (.ok (), { d with images := d.images.insert reference (pulledImage reference digest) })
    | none => (.error (noManifest reference), d)
  | .prune => (.ok d.dangling, { d with dangling := ⟨[], 0⟩ })

end MemoryDaemon

end ContainerFleet
