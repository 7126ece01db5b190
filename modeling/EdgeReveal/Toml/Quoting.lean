import EdgeReveal.Text.Hex

/-!
# TOML strings

Basic strings have escapes and literal strings have none; both have a form
over several lines. A reader goes through a string character by character and
remembers in a mode what the characters before it have begun.
-/
namespace EdgeReveal.Toml

/-- Characters that may stand in a comment or a string as they are. -/
def isPlain (c : Char) : Bool := c == '\t' || (' ' ≤ c && c != '\x7f')

def isSpace (c : Char) : Bool := c == ' ' || c == '\t'

def startsLine : List Char → Bool
  | '\n' :: _ => true
  | '\r' :: '\n' :: _ => true
  | _ => false

/-- What a reader of a basic string is in the middle of. -/
inductive Mode where
  | plain
  /-- Behind a line that was joined to the next: leading blanks are dropped. -/
  | joined
  | escape
  /-- A character by number: so many digits to come, and the value of those before. -/
  | number (digits value : Nat)
  deriving DecidableEq, Repr

/-- A code point that is a character. -/
def scalar? (n : Nat) : Option Char :=
  if n < 0xD800 ∨ (0xDFFF < n ∧ n < 0x110000) then some (Char.ofNat n) else none

def simpleEscape? : Char → Option Char
  | 'b' => some '\x08'
  | 't' => some '\t'
  | 'n' => some '\n'
  | 'f' => some '\x0c'
  | 'r' => some '\r'
  | 'e' => some '\x1b'
  | '"' => some '"'
  | '\\' => some '\\'
  | _ => none

def numberDigits? : Char → Option Nat
  | 'x' => some 2
  | 'u' => some 4
  | 'U' => some 8
  | _ => none

/-- Up to two quotes before the closing three belong to the text. -/
def closing (quote : Char) : List Char → List Char × List Char
  | a :: b :: rest =>
    if a = quote then if b = quote then ([quote, quote], rest) else ([quote], b :: rest)
    else ([], a :: b :: rest)
  | [a] => if a = quote then ([quote], []) else ([], [a])
  | [] => ([], [])

def isTriple (quote : Char) : List Char → Bool
  | a :: b :: c :: _ => a == quote && b == quote && c == quote
  | _ => false

/-- Whether a backslash stands at the end of a line. -/
def joinsLines (text : List Char) : Bool := startsLine (text.dropWhile isSpace)

/-- Reads a basic string from behind its opening quotes; `multi` allows several lines. -/
def basicBody (multi : Bool) : Mode → List Char → Option (List Char × List Char)
  | _, [] => none
  | .number digits value, c :: rest =>
    match Text.hexValue? c, digits with
    | none, _ | _, 0 => none
    | some d, 1 => do
      let read ← scalar? (value * 16 + d)
      let (text, rest) ← basicBody multi .plain rest
      return (read :: text, rest)
    | some d, digits + 2 => basicBody multi (.number (digits + 1) (value * 16 + d)) rest
  | .escape, c :: rest =>
    match simpleEscape? c, numberDigits? c with
    | some escaped, _ => do
      let (text, rest) ← basicBody multi .plain rest
      return (escaped :: text, rest)
    | none, some digits => basicBody multi (.number digits 0) rest
    | none, none => if multi && joinsLines (c :: rest) then basicBody multi .joined rest else none
  | mode, c :: rest =>
    if mode = .joined ∧ (isSpace c ∨ startsLine (c :: rest)) then basicBody multi .joined rest
    else if c = '\\' then basicBody multi .escape rest
    else if c = '"' ∧ ¬multi then some ([], rest)
    else if multi ∧ isTriple '"' (c :: rest) then some (closing '"' (rest.drop 2))
    else if isPlain c ∨ (multi ∧ startsLine (c :: rest)) then do
      let (text, rest) ← basicBody multi .plain rest
      return (c :: text, rest)
    else none

/-- Reads a literal string from behind its opening quotes. -/
def literalBody (multi : Bool) : List Char → Option (List Char × List Char)
  | [] => none
  | c :: rest =>
    if c = '\'' ∧ ¬multi then some ([], rest)
    else if multi ∧ isTriple '\'' (c :: rest) then some (closing '\'' (rest.drop 2))
    else if isPlain c ∨ (multi ∧ startsLine (c :: rest)) then do
      let (text, rest) ← literalBody multi rest
      return (c :: text, rest)
    else none

/-- A newline right behind the opening of a form over several lines is not part of the text. -/
def skipFirstLine : List Char → List Char
  | '\n' :: rest => rest
  | '\r' :: '\n' :: rest => rest
  | text => text

/-- Reads a string of one line, which is all that a key may be. -/
def singleLine? : List Char → Option (List Char × List Char)
  | '"' :: rest => basicBody false .plain rest
  | '\'' :: rest => literalBody false rest
  | _ => none

/-- Reads a string in any of the four forms. -/
def string? (text : List Char) : Option (List Char × List Char) :=
  if isTriple '"' text then basicBody true .plain (skipFirstLine (text.drop 3))
  else if isTriple '\'' text then literalBody true (skipFirstLine (text.drop 3))
  else singleLine? text

end EdgeReveal.Toml
