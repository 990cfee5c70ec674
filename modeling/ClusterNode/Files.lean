/-!
# Files

A tree of files and directories below a working directory, as far as a node reads it. A path is
walked part by part: a part below a file is refused, a missing part is not found, and a directory
cannot be read as text.
-/

namespace ClusterNode

inductive FileNode
  | file (bytes : ByteArray)
  | directory

/-- Nodes by the parts of their path; the working directory itself is the empty path. -/
structure Files where
  entries : List (List String × FileNode)

inductive FileError
  | notFound
  | alreadyExists
  | isDirectory
  | notDirectory
  | denied
  | nameTooLong
  | nameWithNul
  | notText
  deriving DecidableEq, Repr

namespace FileError

def message : FileError -> String
  | notFound => "No such file or directory (os error 2)"
  | alreadyExists => "File exists (os error 17)"
  | isDirectory => "Is a directory (os error 21)"
  | notDirectory => "Not a directory (os error 20)"
  | denied => "Permission denied (os error 13)"
  | nameTooLong => "File name too long (os error 36)"
  | nameWithNul => "file name contained an unexpected NUL byte"
  | notText => "stream did not contain valid UTF-8"

end FileError

/-- Gives the text of the file at a path. -/
abbrev FileReader := String -> Except FileError String

namespace Files

def empty : Files := { entries := [] }

def lookup (files : Files) (path : List String) : Option FileNode :=
  if path.isEmpty then some .directory
  else (files.entries.find? fun (p, _) => p == path).map Prod.snd

def parts (path : String) : List String := path.splitOn "/"

def nameParts (path : String) : List String :=
  (parts path).filter fun part => part != "" && part != "."

/-- Goes on from the directory or file at `place`. -/
def walk (files : Files) (place : List String) : List String -> Except FileError (List String)
  | [] => .ok place
  | part :: rest =>
      match files.lookup place with
      | none => .error .notFound
      | some (.file _) => .error .notDirectory
      | some .directory =>
          if part = "" ∨ part = "." then walk files place rest
          else if part = ".." then walk files place.dropLast rest
          else if 255 < part.utf8ByteSize then .error .nameTooLong
          else walk files (place ++ [part]) rest

/-- Where a path leads, from the working directory. -/
def resolve (files : Files) (path : String) : Except FileError (List String) :=
  if path.toList.contains (Char.ofNat 0) then .error .nameWithNul
  else if path.isEmpty then .error .notFound
  else if 4096 ≤ path.utf8ByteSize then .error .nameTooLong
  else if path.toList.head? = some '/' then
    if (nameParts path).isEmpty then .ok [] else .error .notFound
  else walk files [] (parts path)

def readText (files : Files) (path : String) : Except FileError String := do
  let place ← files.resolve path
  match files.lookup place with
  | none => .error .notFound
  | some .directory => .error .isDirectory
  | some (.file bytes) =>
      match String.fromUTF8? bytes with
      | some text => .ok text
      | none => .error .notText

def put (files : Files) (path : List String) (node : FileNode) : Files :=
  { entries := (path, node) :: files.entries.filter fun (p, _) => p != path }

def makeDirectories (files : Files) (path : List String) : Files :=
  (List.range path.length).foldl (fun files n =>
    let place := path.take (n + 1)
    match files.lookup place with
    | some _ => files
    | none => files.put place .directory) files

def createFrom (files : Files) (place : List String) :
    List String -> Except FileError (Files × List String)
  | [] => .ok (files, place)
  | part :: rest =>
      if part = "" ∨ part = "." then createFrom files place rest
      else if part = ".." then createFrom files place.dropLast rest
      else if 255 < part.utf8ByteSize then .error .nameTooLong
      else
        match files.lookup (place ++ [part]) with
        | some .directory => createFrom files (place ++ [part]) rest
        | none => createFrom (files.put (place ++ [part]) .directory) (place ++ [part]) rest
        | some (.file _) =>
            .error (if rest.all (· == "") then .alreadyExists else .notDirectory)

/-- Creates the directory of a path; one that is already there will do. -/
def createDirectories (files : Files) (path : String) : Except FileError (Files × List String) :=
  if path.toList.contains (Char.ofNat 0) then .error .nameWithNul
  else if 4096 ≤ path.utf8ByteSize then .error .nameTooLong
  else createFrom files [] (parts path)

def isDirectory (files : Files) (path : String) : Bool :=
  match files.resolve path with
  | .ok place =>
      match files.lookup place with
      | some .directory => true
      | _ => false
  | .error _ => false

def names (files : Files) (path : String) : List String :=
  match files.resolve path with
  | .ok place =>
      (files.entries.filterMap fun (p, _) =>
        if p.dropLast == place && !p.isEmpty then p.getLast? else none).mergeSort (· ≤ ·)
  | .error _ => []

def makeDirectory (files : Files) (path : String) : Files :=
  files.makeDirectories (nameParts path)

def writeBytes (files : Files) (path : String) (bytes : ByteArray) : Files :=
  let place := nameParts path
  (files.makeDirectories place.dropLast).put place (.file bytes)

def writeText (files : Files) (path content : String) : Files :=
  files.writeBytes path content.toUTF8

def remove (files : Files) (path : String) : Files :=
  let place := nameParts path
  { entries := files.entries.filter fun (p, _) => !place.isPrefixOf p }

end Files
end ClusterNode
