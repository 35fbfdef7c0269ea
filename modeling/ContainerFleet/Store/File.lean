import ContainerFleet.Files
import ContainerFleet.Json.Reader
import ContainerFleet.Json.Writer
import ContainerFleet.Store.Call

/-!
The store of detected updates as a file that holds a JSON list of them. Each change writes the whole
list to a second file, which then takes the place of the first. A file that is missing or empty
holds no records.
-/

namespace ContainerFleet

structure FileStore where
  path : String
deriving DecidableEq, Repr

namespace FileStore

/-- The records that a file holds. -/
def decode? (bytes : Files.Bytes) : Option (List ImageUpdate) :=
  if bytes.isEmpty then some []
  else do
    let items ← (← Json.parse? (← Files.textOf? bytes)).arr?
    items.mapM ImageUpdate.ofJson?

/-- The content of a file that holds some records. -/
def encode (records : List ImageUpdate) : Files.Bytes :=
  Files.bytesOf ((Json.arr (records.map ImageUpdate.toJson)).indent 0)

/-- What an error of reading or writing the file means for the store. -/
def fileError (e : FileError) : StoreError :=
  .file e.message

/-- Whether a record is for a host and one of some images. -/
def isFor (host : String) (imageIds : List String) (u : ImageUpdate) : Bool :=
  u.host == host && imageIds.contains u.imageId

/-- The records with one put in, in place of an older one for the same host and image. -/
def insert (records : List ImageUpdate) (u : ImageUpdate) : List ImageUpdate :=
  records.filter (fun r => !isFor u.host [u.imageId] r) ++ [u]

/-- The records without those for some images of a host. -/
def remove (records : List ImageUpdate) (host : String) (imageIds : List String) :
    List ImageUpdate :=
  records.filter fun r => !isFor host imageIds r

/-- The records for some images of a host, by image. -/
def select (records : List ImageUpdate) (host : String) (imageIds : List String) :
    Map String ImageUpdate :=
  Map.ofEntries ((records.filter (isFor host imageIds)).map fun r => (r.imageId, r))

/-- The file that a change is written to first. -/
def draftPath (s : FileStore) : String :=
  FilePath.withExtension s.path "tmp"

def readAll (s : FileStore) : FileProgram (Except StoreError (List ImageUpdate)) := do
  match ← FileProgram.read s.path with
  | .error .notFound => return .ok []
  | .error e => return .error (fileError e)
  | .ok bytes =>
    match decode? bytes with
    | some records => return .ok records
    | none => return .error (.malformed "")

/-- Makes the directory that holds the file. -/
def prepare (s : FileStore) : FileProgram (Except FileError Unit) :=
  match FilePath.parent? s.path with
  | some dir => FileProgram.makeDirectories dir
  | none => return .ok ()

def writeAll (s : FileStore) (records : List ImageUpdate) :
    FileProgram (Except StoreError Unit) := do
  match ← s.prepare with
  | .error e => return .error (fileError e)
  | .ok () =>
    match ← FileProgram.write s.draftPath (encode records) with
    | .error e => return .error (fileError e)
    | .ok () =>
      match ← FileProgram.rename s.draftPath s.path with
      | .error e => return .error (fileError e)
      | .ok () => return .ok ()

def save (s : FileStore) (u : ImageUpdate) : FileProgram (Except StoreError Unit) := do
  match ← s.readAll with
  | .error e => return .error e
  | .ok records => s.writeAll (insert records u)

/-- Removes records; the file is left alone when there is none of them. -/
def delete (s : FileStore) (host : String) (imageIds : List String) :
    FileProgram (Except StoreError Unit) := do
  match ← s.readAll with
  | .error e => return .error e
  | .ok records =>
    if (remove records host imageIds).length = records.length then return .ok ()
    else s.writeAll (remove records host imageIds)

def find (s : FileStore) (host : String) (imageIds : List String) :
    FileProgram (Except StoreError (Map String ImageUpdate)) := do
  match ← s.readAll with
  | .error e => return .error e
  | .ok records => return .ok (select records host imageIds)

/-- Carries out one call. -/
def perform (s : FileStore) : (call : StoreCall) → FileProgram call.Reply
  | .save u => s.save u
  | .delete host ids => s.delete host ids
  | .find host ids => s.find host ids

end FileStore

end ContainerFleet
