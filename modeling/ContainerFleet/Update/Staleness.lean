import ContainerFleet.Update.Request

/-!
Whether the registry has another image for a reference than the host. Digests are compared without
the repository in front and without the algorithm.
-/

namespace ContainerFleet

namespace Digest

/-- The text after the last mark, or all of it. -/
def afterLast (mark : Char) (s : List Char) : List Char :=
  (s.reverse.takeWhile (· != mark)).reverse

/-- The text after the first mark, or all of it. -/
def afterFirst (mark : Char) (s : List Char) : List Char :=
  match s.dropWhile (· != mark) with
  | [] => s
  | _ :: rest => rest

/-- The part of a digest that two names of one image share. -/
def normalize (digest : String) : String :=
  String.ofList (afterFirst ':' (afterLast '@' digest.toList))

/-- How an image id starts; a reference never does. -/
def imageIdMark : String := "sha256:"

/-- Whether a text names an image by its id. -/
def isImageId (image : String) : Bool :=
  imageIdMark.toList.isPrefixOf image.toList

end Digest

/-- Why the images of host and registry could not be compared. -/
inductive DigestError where
  /-- The text names an image by its id, which no registry knows. -/
  | notAReference (image : String)
  | localLookup (image : String) (e : DaemonError)
  | registryLookup (image : String) (e : DaemonError)
deriving DecidableEq, Repr

namespace DigestError

def message : DigestError → String
  | .notAReference image => image ++ " is an image ID, not a pullable reference"
  | .localLookup image e => "inspecting local image " ++ image ++ " failed: " ++ e.message
  | .registryLookup image e => "registry lookup for " ++ image ++ " failed: " ++ e.message

end DigestError

/-- The images of host and registry, compared. -/
structure DigestCheck where
  /-- The registry has another image. -/
  updateAvailable : Bool
  localId : String
  remoteDigest : String
deriving DecidableEq, Repr

namespace DigestCheck

/-- An image that was pulled is the one of the registry when one of its digests is; an image
without digests when its id is. -/
def isCurrent (image : ImageDetails) (remoteDigest : String) : Bool :=
  if image.repoDigests.isEmpty then
    Digest.normalize image.id == Digest.normalize remoteDigest
  else image.repoDigests.any fun d => Digest.normalize d == Digest.normalize remoteDigest

def ofImage (image : ImageDetails) (remoteDigest : String) : DigestCheck where
  updateAvailable := !isCurrent image remoteDigest
  localId := image.id
  remoteDigest := remoteDigest

/-- Compares the images that host and registry have for a reference. -/
def ofReference (image : String) : UpdateProgram (Except DigestError DigestCheck) :=
  if Digest.isImageId image then return .error (.notAReference image)
  else do
    match ← UpdateProgram.daemon (.image image) with
    | .error e => return .error (.localLookup image e)
    | .ok details =>
      match ← UpdateProgram.daemon (.registryDigest image) with
      | .error e => return .error (.registryLookup image e)
      | .ok digest => return .ok (ofImage details digest)

/-- Whether a container runs another image than the one the host has for its reference now. -/
def isSuperseded (check : DigestCheck) (imageId : String) : Bool :=
  imageId ≠ "" && imageId ≠ check.localId

end DigestCheck

namespace ContainerRecord

/-- A record with the reference of its container. The id by which the image was listed is kept as
the image's id where that is not known. -/
def withReference (c : ContainerRecord) (reference : String) : ContainerRecord :=
  { c with image := reference, imageId := if c.imageId = "" then c.image else c.imageId }

/-- A daemon lists a container by its image's id once the reference stands for another image. The
reference is then asked for. -/
def resolveReference (c : ContainerRecord) : UpdateProgram (Except DaemonError ContainerRecord) :=
  if Digest.isImageId c.image then do
    match ← UpdateProgram.inspect c.id with
    | .error e => return .error e
    | .ok details => return .ok (c.withReference details.image)
  else return .ok c

end ContainerRecord

end ContainerFleet
