import EdgeReveal.Files.Path
import EdgeReveal.OsFault

/-!
# Files

A tree of folders and files as a program finds it when it looks: what is at a
path, seen from the current folder, or why nothing can be read there.
-/
namespace EdgeReveal

/-- A place in the tree: names from the root on. -/
abbrev Place := List String

inductive Entry where
  | file (content : List UInt8)
  | folder
  deriving DecidableEq, Repr, Inhabited

/-- A folder exists if it is listed or if something lies below it. -/
structure Files where
  files : List (Place × List UInt8) := []
  folders : List Place := []
  current : Place := []
  deriving Repr, Inhabited

namespace Files

def at? (fs : Files) (place : Place) : Option Entry :=
  match fs.files.find? (·.1 == place) with
  | some (_, content) => some (.file content)
  | none =>
    if place.isEmpty || fs.folders.any (place.isPrefixOf ·)
        || fs.files.any (fun file => place.isPrefixOf file.1) then some .folder
    else none

/-- The longest name and the longest path that the system accepts, in bytes. -/
def longestName : Nat := 255

def longestPath : Nat := 4095

/-- Follows path parts from a place; each step needs a folder to start from. -/
def walk (fs : Files) (place : Place) : List String → Except OsFault Place
  | [] => .ok place
  | part :: rest =>
    match fs.at? place with
    | none => .error .notFound
    | some (.file _) => .error .notDirectory
    | some .folder =>
      if part = "" ∨ part = "." then walk fs place rest
      else if part = ".." then walk fs place.dropLast rest
      else if longestName < part.utf8ByteSize then .error .nameTooLong
      else walk fs (place ++ [part]) rest

def lookup (fs : Files) (path : String) : Except OsFault Entry :=
  if '\x00' ∈ path.toList then .error .nulInPath
  else if path.isEmpty then .error .notFound
  else if longestPath < path.utf8ByteSize then .error .nameTooLong
  else
    match fs.walk (if Path.isAbsolute path then [] else fs.current) (Path.parts path) with
    | .error fault => .error fault
    | .ok place =>
      match fs.at? place with
      | some entry => .ok entry
      | none => .error .notFound

def contains (fs : Files) (path : String) : Bool :=
  match fs.lookup path with
  | .ok _ => true
  | .error _ => false

def read (fs : Files) (path : String) : Except OsFault (List UInt8) :=
  match fs.lookup path with
  | .ok (.file content) => .ok content
  | .ok .folder => .error .isDirectory
  | .error fault => .error fault

/-- Where a path leads to, seen from the current folder, whether or not anything is there. -/
def placeOf (fs : Files) (path : String) : Place :=
  (Path.parts path).foldl
    (fun place part =>
      if part = "" ∨ part = "." then place
      else if part = ".." then place.dropLast
      else place ++ [part])
    (if Path.isAbsolute path then [] else fs.current)

def addFolder (fs : Files) (path : String) : Files :=
  { fs with folders := fs.placeOf path :: fs.folders }

def addFile (fs : Files) (path : String) (content : List UInt8) : Files :=
  { fs with files := (fs.placeOf path, content) :: fs.files }

end Files

end EdgeReveal
