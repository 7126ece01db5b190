import EdgeReveal.Shell.Pattern
import EdgeReveal.Shell.State

/-!
# Fields of a word

An expanded word is split where expansions brought in separators; a field with
an unquoted pattern becomes the paths that it fits.
-/
namespace EdgeReveal.Shell

/-- A character of an expanded word, a pair of quotes, the gap between two positional
parameters, or the place where none was. -/
inductive Glyph where
  | char (c : Char) (quoted splits : Bool)
  | quotes
  | gap
  | nothing
  deriving DecidableEq, Repr, Inhabited

namespace Glyph

def ofText (quoted : Bool) (text : List Char) : List Glyph := text.map (.char · quoted (!quoted))

def letter? : Glyph → Option Letter
  | .char c quoted _ => some ⟨c, quoted⟩
  | .gap => some ⟨' ', true⟩
  | _ => none

def letters (glyphs : List Glyph) : List Letter := glyphs.filterMap letter?

def text (glyphs : List Glyph) : List Char := (letters glyphs).map (·.char)

/-- A word that is no field at all: quotes around no positional parameters. -/
def isVoid (glyphs : List Glyph) : Bool :=
  glyphs.all fun glyph => match glyph with
    | .char _ _ _ | .gap => false
    | .quotes | .nothing => true

/-- Cuts glyphs into fields. `begun` is the field that is being filled; `afterBlank` tells
that a blank has just ended one, so that the next separator belongs to it. -/
def fieldsFrom (separators : List Char) (begun : Option (List Glyph)) (afterBlank : Bool) :
    List Glyph → List (List Glyph)
  | [] => begun.toList
  | .gap :: rest => begun.toList ++ fieldsFrom separators none false rest
  | .char c quoted splits :: rest =>
    if splits && !quoted && separators.contains c then
      if c == ' ' || c == '\t' || c == '\n' then
        begun.toList ++ fieldsFrom separators none (afterBlank || begun.isSome) rest
      else
        match begun with
        | some field => field :: fieldsFrom separators none false rest
        | none =>
          if afterBlank then fieldsFrom separators none false rest
          else [] :: fieldsFrom separators none false rest
    else fieldsFrom separators (some (begun.getD [] ++ [.char c quoted splits])) false rest
  | .quotes :: rest => fieldsFrom separators (some (begun.getD [] ++ [.quotes])) false rest
  | .nothing :: rest => fieldsFrom separators begun afterBlank rest

def fields (separators : List Char) (glyphs : List Glyph) : List (List Letter) :=
  if glyphs.contains .nothing && isVoid glyphs then []
  else (fieldsFrom separators none false glyphs).map letters

end Glyph

/-- The parts of a path between its slashes. -/
def pathParts : List Letter → List (List Letter)
  | [] => [[]]
  | letter :: rest =>
    match pathParts rest with
    | part :: others =>
      if letter.char = '/' then [] :: part :: others else (letter :: part) :: others
    | [] => [[letter]]

/-- Texts in the order of their characters' codes. -/
def inCodeOrder (a b : List Char) : Bool := !(b.map Char.toNat).lex (a.map Char.toNat)

/-- Names that fit a pattern, in order of their bytes. A leading dot has to be written out. -/
def fittingNames (fs : Files) (place : Place) (letters : List Letter) : List (List Char) :=
  let pattern := Pattern.ofWord letters
  let dotted := (letters.head?.map (·.char)) == some '.'
  ((fs.namesIn place).map ofString).filter (fun name =>
    Pattern.fits pattern name && (dotted || name.head? != some '.'))
    |>.mergeSort inCodeOrder

/-- The paths below a place that fit all parts of a pattern. -/
def fittingPaths (fs : Files) (place : Place) : List (List Letter) → List (List Char)
  | [] => []
  | [last] =>
    if Pattern.isPattern last then fittingNames fs place last
    else
      let name := last.map (·.char)
      if name = [] || (fs.at? (place ++ [quoteName name])).isSome then [name] else []
  | part :: rest =>
    let names := if Pattern.isPattern part then fittingNames fs place part else [part.map (·.char)]
    names.flatMap fun name =>
      let below := match quoteName name with
        | "" | "." => place
        | ".." => place.dropLast
        | text => place ++ [text]
      if fs.at? below = some .folder then
        (fittingPaths fs below rest).map fun path => name ++ '/' :: path
      else []

/-- What a field stands for: the paths that fit it, or itself. -/
def matchingPaths (fs : Files) (letters : List Letter) : List (List Char) :=
  let itself := [letters.map (·.char)]
  if !Pattern.isPattern letters then itself
  else
    let start : Place := if (letters.head?.map (·.char)) == some '/' then [] else fs.current
    match fittingPaths fs start (pathParts letters) with
    | [] => itself
    | paths => paths

/-- Splits a line among names: each takes one field, the last one takes the rest. -/
def shareOut (separators : List Char) : Nat → List Char → List (List Char)
  | 0, _ => []
  | names + 1, text =>
    let isBlankSeparator (c : Char) : Bool :=
      separators.contains c && (c == ' ' || c == '\t' || c == '\n')
    let text := text.dropWhile isBlankSeparator
    match names with
    | 0 => [(text.reverse.dropWhile isBlankSeparator).reverse]
    | names + 1 =>
      let field := text.takeWhile (!separators.contains ·)
      let rest := (text.drop field.length).dropWhile isBlankSeparator
      let rest := match rest with
        | c :: others => if separators.contains c then others else rest
        | [] => []
      field :: shareOut separators (names + 1) rest

end EdgeReveal.Shell
