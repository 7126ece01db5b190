import EdgeReveal.Json.Reader

/-!
# The JSON grammar

Which texts spell which values, as rules that say nothing of how a text is read. White space may
stand around every token, numerals keep their spelling, and a character of a string may stand for
itself or be escaped, by a short name or by its 16-bit units.
-/
namespace EdgeReveal.Json

/-- White space, or nothing. -/
def Blank (text : List Char) : Prop := ∀ c ∈ text, c ∈ [' ', '\t', '\n', '\r']

/-! ### Numerals -/

namespace Numeral

/-- At least one digit. -/
structure Row (digits : List Char) : Prop where
  nonempty : digits ≠ []
  decimal : ∀ c ∈ digits, Text.isDigit c = true

/-- A leading zero stands alone. -/
structure Whole (digits : List Char) : Prop extends Row digits where
  lead : digits.head? = some '0' → digits = ['0']

inductive FractionSpelled : List Char → Option (List Char) → Prop
  | absent : FractionSpelled [] none
  | present {digits : List Char} (row : Row digits) : FractionSpelled ('.' :: digits) (some digits)

inductive ExponentSpelled : List Char → Option (Bool × List Char) → Prop
  | absent : ExponentSpelled [] none
  | unsigned {mark : Char} {digits : List Char} (marked : mark = 'e' ∨ mark = 'E')
      (row : Row digits) : ExponentSpelled (mark :: digits) (some (false, digits))
  | plus {mark : Char} {digits : List Char} (marked : mark = 'e' ∨ mark = 'E')
      (row : Row digits) : ExponentSpelled (mark :: '+' :: digits) (some (false, digits))
  | minus {mark : Char} {digits : List Char} (marked : mark = 'e' ∨ mark = 'E')
      (row : Row digits) : ExponentSpelled (mark :: '-' :: digits) (some (true, digits))

inductive UnsignedSpelled (negative : Bool) : List Char → Numeral → Prop
  | parts {whole point power : List Char} {fraction : Option (List Char)}
      {exponent : Option (Bool × List Char)} (first : Whole whole)
      (second : FractionSpelled point fraction) (third : ExponentSpelled power exponent) :
      UnsignedSpelled negative (whole ++ (point ++ power)) ⟨negative, whole, fraction, exponent⟩

inductive Spelled : List Char → Numeral → Prop
  | natural {text : List Char} {n : Numeral} (rest : UnsignedSpelled false text n) : Spelled text n
  | minus {text : List Char} {n : Numeral} (rest : UnsignedSpelled true text n) :
      Spelled ('-' :: text) n

end Numeral

/-! ### Strings -/

/-- What a backslash and one character stand for. -/
def escapes : List (Char × Char) :=
  [('"', '"'), ('\\', '\\'), ('/', '/'), ('b', '\x08'), ('f', '\x0c'), ('n', '\n'), ('r', '\r'),
    ('t', '\t')]

/-- Letters in either case. -/
inductive HexDigit : Char → Nat → Prop
  | lower {d : Nat} (digit : d < 16) : HexDigit (Nat.digitChar d) d
  | upper {d : Nat} (digit : d < 16) : HexDigit (Nat.digitChar d).toUpper d

inductive PiecesSpelled : List Char → List Piece → Prop
  | nil : PiecesSpelled [] []
  | plain {c : Char} {text : List Char} {pieces : List Piece} (visible : ' ' ≤ c)
      (unquoted : c ≠ '"') (unescaped : c ≠ '\\') (more : PiecesSpelled text pieces) :
      PiecesSpelled (c :: text) (.char c :: pieces)
  | escape {mark c : Char} {text : List Char} {pieces : List Piece} (known : (mark, c) ∈ escapes)
      (more : PiecesSpelled text pieces) : PiecesSpelled ('\\' :: mark :: text) (.char c :: pieces)
  | unit {a b c d : Char} {i j k l : Nat} {text : List Char} {pieces : List Piece}
      (first : HexDigit a i) (second : HexDigit b j) (third : HexDigit c k) (fourth : HexDigit d l)
      (more : PiecesSpelled text pieces) :
      PiecesSpelled ('\\' :: 'u' :: a :: b :: c :: d :: text)
        (.unit (((i * 16 + j) * 16 + k) * 16 + l) :: pieces)

/-- Pieces stand for characters. A character beyond the first 16 bits has two units. -/
inductive Encodes : List Piece → List Char → Prop
  | nil : Encodes [] []
  | char {c : Char} {pieces : List Piece} {chars : List Char} (more : Encodes pieces chars) :
      Encodes (.char c :: pieces) (c :: chars)
  | unit {c : Char} {pieces : List Piece} {chars : List Char} (basic : c.toNat < 0x10000)
      (more : Encodes pieces chars) : Encodes (.unit c.toNat :: pieces) (c :: chars)
  | pair {c : Char} {pieces : List Piece} {chars : List Char} (beyond : 0x10000 ≤ c.toNat)
      (more : Encodes pieces chars) :
      Encodes
        (.unit (0xD800 + (c.toNat - 0x10000) / 0x400) ::
          .unit (0xDC00 + (c.toNat - 0x10000) % 0x400) :: pieces)
        (c :: chars)

/-- A string whose pieces encode no characters has lost half of a pair. -/
inductive CharactersSpelled : List Char → Characters → Prop
  | whole {text : List Char} {pieces : List Piece} {s : String}
      (body : PiecesSpelled text pieces) (encodes : Encodes pieces s.toList) :
      CharactersSpelled ('"' :: (text ++ ['"'])) (some s)
  | broken {text : List Char} {pieces : List Piece} (body : PiecesSpelled text pieces)
      (halved : ∀ chars, ¬ Encodes pieces chars) : CharactersSpelled ('"' :: (text ++ ['"'])) none

/-! ### Values -/

mutual

/-- The text of a value from its first token to its last. -/
inductive Spelled : List Char → Value → Prop
  | null : Spelled ['n', 'u', 'l', 'l'] .null
  | yes : Spelled ['t', 'r', 'u', 'e'] (.boolean true)
  | no : Spelled ['f', 'a', 'l', 's', 'e'] (.boolean false)
  | number {text : List Char} {n : Numeral} (numeral : n.Spelled text) : Spelled text (.number n)
  | text {text : List Char} {chars : Characters} (quoted : CharactersSpelled text chars) :
      Spelled text (.text chars)
  | noItems {blank : List Char} (inside : Blank blank) :
      Spelled ('[' :: (blank ++ [']'])) (.array [])
  | array {text : List Char} {items : List Value} (listed : ItemsSpelled text items) :
      Spelled ('[' :: (text ++ [']'])) (.array items)
  | noMembers {blank : List Char} (inside : Blank blank) :
      Spelled ('\x7b' :: (blank ++ ['\x7d'])) (.object [])
  | object {text : List Char} {members : List (Characters × Value)}
      (listed : MembersSpelled text members) :
      Spelled ('\x7b' :: (text ++ ['\x7d'])) (.object members)

/-- The text of a value with white space around it. -/
inductive Padded : List Char → Value → Prop
  | pad {before text after : List Char} {value : Value} (front : Blank before)
      (core : Spelled text value) (back : Blank after) : Padded (before ++ (text ++ after)) value

inductive ItemsSpelled : List Char → List Value → Prop
  | last {text : List Char} {value : Value} (item : Padded text value) : ItemsSpelled text [value]
  | more {text rest : List Char} {value : Value} {others : List Value} (item : Padded text value)
      (listed : ItemsSpelled rest others) : ItemsSpelled (text ++ ',' :: rest) (value :: others)

inductive MembersSpelled : List Char → List (Characters × Value) → Prop
  | last {before name after text : List Char} {key : Characters} {value : Value}
      (front : Blank before) (named : CharactersSpelled name key) (back : Blank after)
      (item : Padded text value) :
      MembersSpelled (before ++ (name ++ (after ++ ':' :: text))) [(key, value)]
  | more {before name after text rest : List Char} {key : Characters} {value : Value}
      {others : List (Characters × Value)} (front : Blank before)
      (named : CharactersSpelled name key) (back : Blank after) (item : Padded text value)
      (listed : MembersSpelled rest others) :
      MembersSpelled (before ++ (name ++ (after ++ ':' :: (text ++ ',' :: rest))))
        ((key, value) :: others)

end

end EdgeReveal.Json
