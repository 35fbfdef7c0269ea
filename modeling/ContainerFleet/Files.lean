import ContainerFleet.FilePath
import ContainerFleet.Program

/-!
The few things that are done to files, and what can go wrong. `Disk` is a tree of files in memory
on which they can be carried out.
-/

namespace ContainerFleet

/-- Why a file could not be used. -/
inductive FileError where
  | notFound
  | exists
  | notADirectory
  | isADirectory
  /-- The file holds no text. -/
  | notText
  | other (text : String)
deriving DecidableEq, Repr

namespace FileError

def message : FileError → String
  | .notFound => "No such file or directory (os error 2)"
  | .exists => "File exists (os error 17)"
  | .notADirectory => "Not a directory (os error 20)"
  | .isADirectory => "Is a directory (os error 21)"
  | .notText => "stream did not contain valid UTF-8"
  | .other text => text

end FileError

namespace Files

abbrev Bytes : Type := List UInt8

def bytesOf (text : List Char) : Bytes :=
  (String.ofList text).toUTF8.toList

/-- The text that some bytes encode. -/
def textOf? (bytes : Bytes) : Option (List Char) :=
  (String.fromUTF8? ⟨bytes.toArray⟩).map String.toList

/-- One thing done to files. -/
inductive Request where
  | isThere (path : String)
  | read (path : String)
  | makeDirectories (path : String)
  | write (path : String) (bytes : Bytes)
  | rename (source target : String)
deriving DecidableEq, Repr

namespace Request

def Reply : Request → Type
  | .isThere _ => Bool
  | .read _ => Except FileError Bytes
  | .makeDirectories _ => Except FileError Unit
  | .write _ _ => Except FileError Unit
  | .rename _ _ => Except FileError Unit

end Request

end Files

/-- What programs on files may ask. -/
def fileInterface : Interface := ⟨Files.Request, Files.Request.Reply⟩

/-- What runs on files. -/
abbrev FileProgram (α : Type) : Type :=
  Program fileInterface α

namespace FileProgram

def isThere (path : String) : FileProgram Bool :=
  Program.call (I := fileInterface) (.isThere path)

def read (path : String) : FileProgram (Except FileError Files.Bytes) :=
  Program.call (I := fileInterface) (.read path)

def makeDirectories (path : String) : FileProgram (Except FileError Unit) :=
  Program.call (I := fileInterface) (.makeDirectories path)

def write (path : String) (bytes : Files.Bytes) : FileProgram (Except FileError Unit) :=
  Program.call (I := fileInterface) (.write path bytes)

def rename (source target : String) : FileProgram (Except FileError Unit) :=
  Program.call (I := fileInterface) (.rename source target)

end FileProgram

/-- What stands at a path. -/
inductive DiskEntry where
  | file (bytes : Files.Bytes)
  | directory
deriving DecidableEq, Repr

/-- A tree of files: each path, as its parts, with what stands there. The root always exists. -/
structure Disk where
  entries : List (List String × DiskEntry)
deriving DecidableEq, Repr

namespace Disk

open Files

def empty : Disk := ⟨[]⟩

/-- The parts of a path, those before a double dot dropped. -/
def resolve (path : String) : List String :=
  (FilePath.parts path).foldl (fun done part => if part = ".." then done.dropLast else done ++ [part])
    []

def get? (d : Disk) (path : List String) : Option DiskEntry :=
  if path.isEmpty then some .directory
  else (d.entries.find? fun entry => entry.1 = path).map Prod.snd

def put (d : Disk) (path : List String) (entry : DiskEntry) : Disk :=
  ⟨d.entries.filter (fun e => e.1 ≠ path) ++ [(path, entry)]⟩

def erase (d : Disk) (path : List String) : Disk :=
  ⟨d.entries.filter fun e => e.1 ≠ path⟩

def isDirectory (d : Disk) (path : List String) : Bool :=
  d.get? path == some .directory

/-- Why nothing can stand at a path: a directory above it is missing or is a file. -/
def parentError? (d : Disk) (path : List String) : Option FileError :=
  let above := (List.range path.length).map path.take
  if above.any fun p => match d.get? p with | some (.file _) => true | _ => false then
    some .notADirectory
  else if above.all d.isDirectory then none
  else some .notFound

def read (d : Disk) (path : List String) : Except FileError Bytes :=
  match d.get? path with
  | some (.file bytes) => .ok bytes
  | some .directory => .error .isADirectory
  | none => .error ((d.parentError? path).getD .notFound)

def write (d : Disk) (path : List String) (bytes : Bytes) : Except FileError Disk :=
  match d.get? path with
  | some .directory => .error .isADirectory
  | some (.file _) => .ok (d.put path (.file bytes))
  | none =>
    match d.parentError? path with
    | some e => .error e
    | none => .ok (d.put path (.file bytes))

/-- Makes one directory. -/
def makeDirectory (d : Disk) (path : List String) : Except FileError Disk :=
  match d.get? path with
  | some _ => .error .exists
  | none =>
    match d.parentError? path with
    | some e => .error e
    | none => .ok (d.put path .directory)

/-- Makes the directory of the first parts of a path, and those above it that are missing. -/
def makePrefix (d : Disk) (path : List String) : Nat → Except FileError Disk
  | 0 => .ok d
  | n + 1 =>
    let last (d : Disk) : Except FileError Disk :=
      match d.makeDirectory (path.take (n + 1)) with
      | .ok d => .ok d
      | .error e => if d.isDirectory (path.take (n + 1)) then .ok d else .error e
    match last d with
    | .error .notFound =>
      match makePrefix d path n with
      | .ok d => last d
      | .error e => .error e
    | made => made

/-- Makes a directory and those above it that are missing. -/
def makeDirectories (d : Disk) (path : List String) : Except FileError Disk :=
  d.makePrefix path path.length

def rename (d : Disk) (source target : List String) : Except FileError Disk :=
  match d.get? source, d.get? target with
  | some (.file _), some .directory => .error .isADirectory
  | some (.file bytes), some (.file _) => .ok ((d.erase source).put target (.file bytes))
  | some (.file bytes), none =>
    match d.parentError? target with
    | some e => .error e
    | none => .ok ((d.erase source).put target (.file bytes))
  | some .directory, _ => .error (.other "Invalid argument (os error 22)")
  | none, _ => .error ((d.parentError? source).getD .notFound)

/-- The disk with a directory and those above it, as far as they can be made. -/
def withDirectory (d : Disk) (path : String) : Disk :=
  match d.makeDirectories (resolve path) with
  | .ok d => d
  | .error _ => d

/-- The disk with a file at a path, as far as it can be written. -/
def withFile (d : Disk) (path : String) (bytes : Bytes) : Disk :=
  match d.write (resolve path) bytes with
  | .ok d => d
  | .error _ => d

/-- The files and directories below a directory, by their paths from there. -/
def below (d : Disk) (directory : List String) : List (String × DiskEntry) :=
  d.entries.filterMap fun (path, entry) =>
    if directory.isPrefixOf path ∧ path ≠ directory then
      some (String.intercalate "/" (path.drop directory.length), entry)
    else none

/-- Carries out one request. -/
def handle (q : Request) (d : Disk) : q.Reply × Disk :=
  match q with
  | .isThere path => ((d.get? (resolve path)).isSome, d)
  | .read path => (d.read (resolve path), d)
  | .makeDirectories path =>
    match d.makeDirectories (resolve path) with
    | .ok d => (.ok (), d)
    | .error e => (.error e, d)
  | .write path bytes =>
    match d.write (resolve path) bytes with
    | .ok d => (.ok (), d)
    | .error e => (.error e, d)
  | .rename source target =>
    match d.rename (resolve source) (resolve target) with
    | .ok d => (.ok (), d)
    | .error e => (.error e, d)

end Disk

end ContainerFleet
