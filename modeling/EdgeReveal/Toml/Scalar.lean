import EdgeReveal.Text.Hex
import EdgeReveal.Toml.Moment
import EdgeReveal.Toml.Value

/-!
# Unquoted values

Booleans, integers, floats and moments. Digits may be grouped by single
underscores between them, and a decimal has no leading zero.
-/
namespace EdgeReveal.Toml.Scalar

/-- Digits of a class with the underscores between them taken out. -/
def ungroup (isDigit : Char → Bool) : List Char → Option (List Char)
  | [] => none
  | [c] => if isDigit c then some [c] else none
  | c :: '_' :: rest => if isDigit c then (ungroup isDigit rest).map (c :: ·) else none
  | c :: rest => if isDigit c then (ungroup isDigit rest).map (c :: ·) else none

/-- A decimal without a sign: a lone zero, or digits that begin with another one. -/
def decimal? (text : List Char) : Option Nat :=
  match ungroup Text.isDigit text with
  | some ('0' :: _ :: _) => none
  | some digits => some (Text.digitsValue digits)
  | none => none

def radixDigit (radix : Nat) (c : Char) : Bool :=
  match Text.hexValue? c with
  | some value => value < radix
  | none => false

def radixValue (radix : Nat) (digits : List Char) : Nat :=
  digits.foldl (fun value c => value * radix + (Text.hexValue? c).getD 0) 0

def radixed? (radix : Nat) (text : List Char) : Option Int :=
  (ungroup (radixDigit radix) text).map fun digits => (radixValue radix digits : Int)

def integer? : List Char → Option Int
  | '0' :: 'x' :: rest => radixed? 16 rest
  | '0' :: 'o' :: rest => radixed? 8 rest
  | '0' :: 'b' :: rest => radixed? 2 rest
  | '-' :: rest => (decimal? rest).map fun n => -(n : Int)
  | '+' :: rest => (decimal? rest).map fun n => (n : Int)
  | rest => (decimal? rest).map fun n => (n : Int)

def dropSign : List Char → List Char
  | '-' :: rest => rest
  | '+' :: rest => rest
  | rest => rest

def isExponentMark (c : Char) : Bool := c == 'e' || c == 'E'

def isExponent (text : List Char) : Bool := (ungroup Text.isDigit (dropSign text)).isSome

/-- A fraction, an exponent, or a fraction and an exponent. -/
def isFloatTail : List Char → Bool
  | '.' :: rest =>
    (ungroup Text.isDigit (rest.takeWhile (!isExponentMark ·))).isSome &&
      (match rest.dropWhile (!isExponentMark ·) with
        | [] => true
        | _ :: exponent => isExponent exponent)
  | c :: exponent => isExponentMark c && isExponent exponent
  | [] => false

def isFloat (text : List Char) : Bool :=
  let unsigned := dropSign text
  unsigned == "inf".toList || unsigned == "nan".toList ||
    ((decimal? (unsigned.takeWhile fun c => c != '.' && !isExponentMark c)).isSome &&
      isFloatTail (unsigned.dropWhile fun c => c != '.' && !isExponentMark c))

def value? (token : List Char) : Option Value :=
  if token = "true".toList then some (.boolean true)
  else if token = "false".toList then some (.boolean false)
  else
    match integer? token with
    | some n => some (.integer n)
    | none =>
      if isFloat token then some (.float (String.ofList token))
      else if Moment.isMoment token then some (.moment (String.ofList token))
      else none

def endsToken (c : Char) : Bool :=
  c == ' ' || c == '\t' || c == '\n' || c == '\r' || c == ',' || c == ']' || c == '\x7d' || c == '#'

/-- Reads an unquoted value. A date and a time may stand apart by one space. -/
def read? (text : List Char) : Option (Value × List Char) :=
  let token := text.takeWhile (!endsToken ·)
  match text.dropWhile (!endsToken ·) with
  | ' ' :: c :: rest =>
    if Moment.isDate token && Text.isDigit c then
      let time := (c :: rest).takeWhile (!endsToken ·)
      (value? (token ++ ' ' :: time)).map fun value =>
        (value, (c :: rest).dropWhile (!endsToken ·))
    else (value? token).map fun value => (value, ' ' :: c :: rest)
  | rest => (value? token).map fun value => (value, rest)

end EdgeReveal.Toml.Scalar
