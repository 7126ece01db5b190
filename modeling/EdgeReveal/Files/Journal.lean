import EdgeReveal.Files.Basic

/-!
# Timed changes of files

Commands that run at the same time change files at moments of their own. A
journal keeps what each change does and when; the files at a moment are the
first ones after all changes up to it, in order of time.
-/
namespace EdgeReveal

inductive FileChange where
  /-- Makes an empty file unless there is one. -/
  | create (place : Place)
  | truncate (place : Place)
  | append (place : Place) (bytes : List UInt8)
  | remove (place : Place)
  | makeFolder (place : Place)
  deriving DecidableEq, Repr, Inhabited

namespace Files

def contentAt (fs : Files) (place : Place) : List UInt8 :=
  match fs.at? place with
  | some (.file content) => content
  | _ => []

def put (fs : Files) (place : Place) (content : List UInt8) : Files :=
  { fs with files := (place, content) :: fs.files.filter (·.1 != place) }

def change (fs : Files) : FileChange → Files
  | .create place => if (fs.at? place).isSome then fs else fs.put place []
  | .truncate place => fs.put place []
  | .append place bytes => fs.put place (fs.contentAt place ++ bytes)
  | .remove place =>
    { fs with
      files := fs.files.filter fun file => !place.isPrefixOf file.1
      folders := fs.folders.filter fun folder => !place.isPrefixOf folder }
  | .makeFolder place => { fs with folders := place :: fs.folders }

/-- The names in a folder, each once. -/
def namesIn (fs : Files) (place : Place) : List String :=
  let below := (fs.files.map (·.1) ++ fs.folders).filter fun other =>
    place.isPrefixOf other && place.length < other.length
  (below.filterMap (·[place.length]?)).eraseDups

end Files

structure Journal where
  start : Files := {}
  changes : List (Nat × FileChange) := []
  deriving Repr, Inhabited

namespace Journal

def record (journal : Journal) (time : Nat) (change : FileChange) : Journal :=
  { journal with changes := journal.changes ++ [(time, change)] }

/-- What a moment finds. Changes of one moment take effect in the order they were recorded. -/
def filesAt (journal : Journal) (time : Nat) : Files :=
  ((journal.changes.filter (·.1 ≤ time)).mergeSort (·.1 ≤ ·.1)).foldl
    (fun fs entry => fs.change entry.2) journal.start

end Journal

end EdgeReveal
