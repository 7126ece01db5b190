/-!
# Path text

A path is a text; joining and splitting never look at any file and never
normalise anything.
-/
namespace EdgeReveal.Path

def isAbsolute (path : String) : Bool := path.toList.head? == some '/'

/-- An absolute right side replaces the left one; otherwise one slash stands between them. -/
def join (left right : String) : String :=
  if isAbsolute right || left.isEmpty then right
  else if left.toList.getLast? == some '/' then left ++ right
  else left ++ "/" ++ right

/-- The parts between slashes; two slashes in a row have an empty part between them. -/
def partsOf : List Char → List (List Char)
  | [] => [[]]
  | c :: rest =>
    if c = '/' then [] :: partsOf rest
    else
      match partsOf rest with
      | part :: others => (c :: part) :: others
      | [] => [[c]]

def parts (path : String) : List String := (partsOf path.toList).map String.ofList

end EdgeReveal.Path
