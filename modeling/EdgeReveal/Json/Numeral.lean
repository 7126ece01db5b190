import EdgeReveal.Text.Decimal

/-!
# JSON numerals

A numeral is kept as it was written. It is an integer only if it has neither a
fraction nor an exponent; as a binary fraction it is the first digits that fit
a 64-bit word, scaled by a power of ten with one rounding per step.
-/
namespace EdgeReveal.Json

/-- The exponent holds whether it is negative, and its digits. -/
structure Numeral where
  negative : Bool
  whole : List Char
  fraction : Option (List Char) := none
  exponent : Option (Bool × List Char) := none
  deriving DecidableEq, Repr, Inhabited

namespace Numeral

/-- At least one digit, and what follows the digits. -/
def digits? (text : List Char) : Option (List Char × List Char) :=
  let digits := text.takeWhile Text.isDigit
  if digits = [] then none else some (digits, text.dropWhile Text.isDigit)

/-- A single zero or a row of digits that begins with another one. -/
def whole? (text : List Char) : Option (List Char × List Char) :=
  match digits? text with
  | some ('0' :: _ :: _, _) => none
  | other => other

def fraction? : List Char → Option (Option (List Char) × List Char)
  | '.' :: rest => (digits? rest).map fun (digits, rest) => (some digits, rest)
  | rest => some (none, rest)

def exponentDigits? (negative : Bool) (text : List Char) :
    Option (Option (Bool × List Char) × List Char) :=
  (digits? text).map fun (digits, rest) => (some (negative, digits), rest)

def exponent? : List Char → Option (Option (Bool × List Char) × List Char)
  | c :: rest =>
    if c = 'e' ∨ c = 'E' then
      match rest with
      | '-' :: rest => exponentDigits? true rest
      | '+' :: rest => exponentDigits? false rest
      | rest => exponentDigits? false rest
    else some (none, c :: rest)
  | [] => some (none, [])

def unsigned? (negative : Bool) (text : List Char) : Option (Numeral × List Char) := do
  let (whole, rest) ← whole? text
  let (fraction, rest) ← fraction? rest
  let (exponent, rest) ← exponent? rest
  return (⟨negative, whole, fraction, exponent⟩, rest)

/-- Reads a numeral at the front of a text. -/
def read? : List Char → Option (Numeral × List Char)
  | '-' :: rest => unsigned? true rest
  | rest => unsigned? false rest

/-- Negative zero is no integer. -/
def integer? (n : Numeral) : Option Int :=
  if n.fraction = none ∧ n.exponent = none then
    let value := Text.digitsValue n.whole
    if n.negative then if value = 0 then none else some (-(value : Int)) else some value
  else none

def wordLimit : Nat := UInt64.size - 1

/-- Appends digits to a value while it fits a 64-bit word, and counts those left over. -/
def fit (value : Nat) : List Char → Nat × Nat
  | [] => (value, 0)
  | c :: rest =>
    let longer := value * 10 + (c.toNat - '0'.toNat)
    if longer ≤ wordLimit then fit longer rest else (value, rest.length + 1)

/-- The largest power of ten that a double can hold. -/
def largestPower : Nat := 308

def powerOfTen (n : Nat) : Float := Float.ofScientific 1 false n

/-- Divides by powers of ten until the exponent is used up or nothing is left. -/
def scaleDown (value : Float) (exponent : Nat) : Float :=
  if exponent ≤ largestPower then value / powerOfTen exponent
  else if value == 0 then value
  else scaleDown (value / powerOfTen largestPower) (exponent - largestPower)
termination_by exponent
decreasing_by simp only [largestPower] at *; omega

/-- Fails where the result would be infinite. -/
def scale? (value : Float) (exponent : Int) : Option Float :=
  match exponent with
  | .ofNat up =>
    if up ≤ largestPower then
      let scaled := value * powerOfTen up
      if scaled.isInf then none else some scaled
    else if value == 0 then some value
    else none
  | .negSucc down => some (scaleDown value (down + 1))

def exponentValue (n : Numeral) : Int :=
  match n.exponent with
  | none => 0
  | some (true, digits) => -(Text.digitsValue digits : Int)
  | some (false, digits) => Text.digitsValue digits

/-- The double that the numeral stands for, if that is finite. -/
def toFloat? (n : Numeral) : Option Float :=
  let (whole, dropped) := fit 0 n.whole
  let fraction := n.fraction.getD []
  let (value, unread) := fit whole fraction
  let shift := (dropped : Int) - (fraction.length - unread : Nat) + n.exponentValue
  (scale? value.toUInt64.toFloat shift).map fun magnitude =>
    if n.negative then -magnitude else magnitude

end Numeral

end EdgeReveal.Json
