import EdgeReveal.Text.Decimal

/-!
# Commands of a shell

What a command text says once it is read. Shell text is a row of bytes; each
byte is held as the character of the same number.
-/
namespace EdgeReveal.Shell

/-- What a parameter in braces asks for. With `colon`, an empty value counts as a missing one. -/
inductive Form where
  | value
  | length
  | default (colon : Bool)
  | assign (colon : Bool)
  | alternative (colon : Bool)
  | require (colon : Bool)
  | trimStart (longest : Bool)
  | trimEnd (longest : Bool)
  deriving DecidableEq, Repr, Inhabited

/-- How a descriptor is opened; `document` feeds it the text that follows the command. -/
inductive Direction where
  | read
  | write
  | append
  | readWrite
  | duplicate
  | document
  deriving DecidableEq, Repr, Inhabited

mutual

/-- A piece of a word. `quotes` marks a pair of quotes: its word is a field even if it is empty. -/
inductive Part where
  | plain (c : Char)
  | quoted (c : Char)
  | quotes
  | parameter (quoted : Bool) (name : List Char) (form : Form) (word : List Part)
  | substitution (quoted : Bool) (script : List Command)
  | arithmetic (quoted : Bool) (expression : List Part)

inductive Redirect where
  | mk (descriptor : Nat) (direction : Direction) (target : List Part)

inductive Command where
  | simple (assignments : List (List Char × List Part)) (words : List (List Part))
      (redirects : List Redirect)
  | pipeline (stages : List Command)
  | negation (command : Command)
  | conjunction (first second : Command)
  | disjunction (first second : Command)
  | background (command : Command)
  | group (body : List Command)
  | subshell (body : List Command)
  | conditional (test accepted refused : List Command)
  /-- Repeats the body as long as the test succeeds, or with `untilTrue` as long as it fails. -/
  | loop (untilTrue : Bool) (test body : List Command)
  /-- Without words it goes through the positional parameters. -/
  | each (name : List Char) (words : Option (List (List Part))) (body : List Command)
  | choice (word : List Part) (cases : List (List (List Part) × List Command))
  | define (name : List Char) (body : Command)
  | redirected (body : Command) (redirects : List Redirect)

end

instance : Inhabited Part := ⟨.quotes⟩
instance : Inhabited Command := ⟨.group []⟩

abbrev Word := List Part

/-- The text of a word in which nothing is to be expanded, with all quotes taken off. -/
def literalText : Word → List Char
  | [] => []
  | .plain c :: rest => c :: literalText rest
  | .quoted c :: rest => c :: literalText rest
  | _ :: rest => literalText rest

def isNameStart (c : Char) : Bool :=
  ('a' ≤ c && c ≤ 'z') || ('A' ≤ c && c ≤ 'Z') || c == '_'

def isNameChar (c : Char) : Bool := isNameStart c || Text.isDigit c

/-- The bytes of a text. -/
def ofString (text : String) : List Char :=
  text.toUTF8.toList.map fun byte => Char.ofNat byte.toNat

def toBytes (text : List Char) : List UInt8 := text.map fun c => c.toNat.toUInt8

def ofBytes (bytes : List UInt8) : List Char := bytes.map fun byte => Char.ofNat byte.toNat

end EdgeReveal.Shell
