/-!
Paths of files as texts, their parts divided by slashes.
-/

namespace ContainerFleet.FilePath

def isAbsolute (path : String) : Bool :=
  path.startsWith "/"

/-- A path below another one; an absolute path stands for itself. -/
def join (base path : String) : String :=
  if isAbsolute path then path
  else if base.isEmpty || base.endsWith "/" then base ++ path
  else base ++ "/" ++ path

/-- The parts of a path, without empty parts and single dots. -/
def parts (path : String) : List String :=
  ((path.toList.splitOn '/').map String.ofList).filter fun part => part ≠ "" && part ≠ "."

/-- A path of some parts, absolute or not. -/
def ofParts (absolute : Bool) (parts : List String) : String :=
  (if absolute then "/" else "") ++ String.intercalate "/" parts

/-- The directory that holds a path; none for the root and the empty path. -/
def parent? (path : String) : Option String :=
  match parts path with
  | [] => none
  | parts => some (ofParts (isAbsolute path) parts.dropLast)

/-- The name of the file that a path leads to. The root, the empty path and a path that ends in two
dots lead to directories. -/
def fileName? (path : String) : Option String :=
  (parts path).getLast?.filter (· ≠ "..")

/-- The name of a file without its extension, which starts at the last dot that is not the first
character. -/
def stem (name : String) : String :=
  match name.toList.reverse.span (· != '.') with
  | (_, '.' :: first :: rest) => String.ofList (first :: rest).reverse
  | _ => name

/-- The path with the extension of its file name replaced. -/
def withExtension (path extension : String) : String :=
  match fileName? path with
  | none => path
  | some name =>
    let file := if extension.isEmpty then stem name else stem name ++ "." ++ extension
    ofParts (isAbsolute path) ((parts path).dropLast ++ [file])

end ContainerFleet.FilePath
