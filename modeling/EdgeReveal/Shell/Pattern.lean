/-!
# Patterns

A pattern says which texts it fits as a whole: characters that stand for
themselves, any one character, any run of characters, or one out of a set.
-/
namespace EdgeReveal.Shell

inductive PatternItem where
  | exact (c : Char)
  | one
  | many
  | among (negated : Bool) (ranges : List (Char × Char))
  deriving DecidableEq, Repr, Inhabited

abbrev Pattern := List PatternItem

/-- A character of a word and whether quoting has taken its meaning. -/
structure Letter where
  char : Char
  quoted : Bool
  deriving DecidableEq, Repr, Inhabited

namespace Pattern

def isMark (letter : Letter) (c : Char) : Bool := !letter.quoted && letter.char == c

/-- The members of a set up to its closing bracket; a bracket at the front is a member. -/
def members (atFront : Bool) : List Letter → Option (List (Char × Char) × List Letter)
  | [] => none
  | first :: dash :: last :: rest =>
    if isMark first ']' && !atFront then some ([], dash :: last :: rest)
    else if isMark dash '-' && !isMark last ']' then
      (members false rest).map fun (ranges, rest) => ((first.char, last.char) :: ranges, rest)
    else
      (members false (dash :: last :: rest)).map fun (ranges, rest) =>
        ((first.char, first.char) :: ranges, rest)
  | first :: rest =>
    if isMark first ']' && !atFront then some ([], rest)
    else
      (members false rest).map fun (ranges, rest) => ((first.char, first.char) :: ranges, rest)

/-- A bracket that is never closed stands for itself. -/
def ofLetters : Nat → List Letter → Pattern
  | 0, _ => []
  | _ + 1, [] => []
  | fuel + 1, letter :: rest =>
    if isMark letter '*' then .many :: ofLetters fuel rest
    else if isMark letter '?' then .one :: ofLetters fuel rest
    else if isMark letter '[' then
      let negated := match rest with
        | next :: _ => isMark next '!' || isMark next '^'
        | [] => false
      match members true (if negated then rest.drop 1 else rest) with
      | some (ranges, rest) => .among negated ranges :: ofLetters fuel rest
      | none => .exact '[' :: ofLetters fuel rest
    else .exact letter.char :: ofLetters fuel rest

def ofWord (letters : List Letter) : Pattern := ofLetters (letters.length + 1) letters

/-- Whether quoting leaves anything in the word that a pattern would need. -/
def isPattern (letters : List Letter) : Bool :=
  letters.any fun letter => isMark letter '*' || isMark letter '?' || isMark letter '['

def fits : Pattern → List Char → Bool
  | [], text => text.isEmpty
  | .many :: rest, [] => fits rest []
  | .many :: rest, c :: text => fits rest (c :: text) || fits (.many :: rest) text
  | _ :: _, [] => false
  | .exact d :: rest, c :: text => d == c && fits rest text
  | .one :: rest, _ :: text => fits rest text
  | .among negated ranges :: rest, c :: text =>
    (ranges.any (fun (low, high) => low ≤ c && c ≤ high) != negated) && fits rest text
termination_by pattern text => pattern.length + text.length

/-- Takes off the shortest or longest beginning that fits. -/
def trimStart (longest : Bool) (pattern : Pattern) (text : List Char) : List Char :=
  let lengths := List.range (text.length + 1)
  let tried := if longest then lengths.reverse else lengths
  match tried.find? fun n => fits pattern (text.take n) with
  | some n => text.drop n
  | none => text

/-- Takes off the shortest or longest end that fits. -/
def trimEnd (longest : Bool) (pattern : Pattern) (text : List Char) : List Char :=
  let lengths := List.range (text.length + 1)
  let tried := if longest then lengths else lengths.reverse
  match tried.find? fun n => fits pattern (text.drop n) with
  | some n => text.take n
  | none => text

end Pattern

end EdgeReveal.Shell
