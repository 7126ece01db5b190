/-!
# White space

The characters that Unicode gives the property White_Space, and trimming by it.
-/
namespace EdgeReveal.Text

/-- The first and last code point of each run of White_Space characters. -/
def blankRanges : List (Nat × Nat) :=
  [(0x9, 0xD), (0x20, 0x20), (0x85, 0x85), (0xA0, 0xA0), (0x1680, 0x1680), (0x2000, 0x200A),
    (0x2028, 0x2029), (0x202F, 0x202F), (0x205F, 0x205F), (0x3000, 0x3000)]

def isBlank (c : Char) : Bool :=
  blankRanges.any fun range => range.1 ≤ c.toNat && c.toNat ≤ range.2

/-- Drops the characters of a class at the end of a text. -/
def dropEndWhile (p : Char → Bool) (text : List Char) : List Char :=
  (text.reverse.dropWhile p).reverse

/-- Drops the characters of a class at both ends of a text. -/
def trim (text : List Char) : List Char := dropEndWhile isBlank (text.dropWhile isBlank)

end EdgeReveal.Text
