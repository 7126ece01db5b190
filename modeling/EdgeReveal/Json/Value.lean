import EdgeReveal.Json.Numeral

/-!
# JSON values

Object members keep their order and their duplicates, and numerals their
spelling, so that a reader of values decides what it makes of them.
-/
namespace EdgeReveal.Json

/-- The characters of a string, unless an escape in it names half of a surrogate pair. -/
abbrev Characters := Option String

inductive Value where
  | null
  | boolean (value : Bool)
  | number (value : Numeral)
  | text (value : Characters)
  | array (items : List Value)
  | object (members : List (Characters × Value))
  deriving Repr, Inhabited

end EdgeReveal.Json
