import EdgeReveal.Text.Hex

/-!
# Writing TOML strings

A string is written in the first style that can hold it, the styles without
escapes and on one line being preferred.
-/
namespace EdgeReveal.Toml

inductive Style where
  | basic
  | literal
  | multiBasic
  | multiLiteral
  deriving DecidableEq, Repr, Inhabited

def isControl (c : Char) : Bool := c < ' ' || c == '\x7f'

/-- Control characters that only an escape can bring into a string. -/
def needsEscape (c : Char) : Bool := isControl c && c != '\t' && c != '\n'

/-- The longest row of a character in a text; `current` counts the row that is under way. -/
def longestRow (mark : Char) (current : Nat) : List Char → Nat
  | [] => current
  | c :: rest =>
    if c = mark then longestRow mark (current + 1) rest
    else max current (longestRow mark 0 rest)

def style (text : List Char) : Style :=
  let escapes := text.any needsEscape
  let backslash := '\\' ∈ text
  let double := longestRow '"' 0 text
  let single := longestRow '\'' 0 text
  let lines := '\n' ∈ text
  if !escapes ∧ ¬backslash ∧ double = 0 ∧ ¬lines then .basic
  else if !escapes ∧ single = 0 ∧ ¬lines then .literal
  else if !escapes ∧ ¬backslash ∧ double ≤ 2 then .multiBasic
  else if !escapes ∧ single ≤ 2 then .multiLiteral
  else if lines then .multiBasic
  else .basic

/-- A character of a basic string other than a quote or a newline. -/
def escapeChar (c : Char) : List Char :=
  match c with
  | '\x08' => ['\\', 'b']
  | '\t' => ['\\', 't']
  | '\x0c' => ['\\', 'f']
  | '\r' => ['\\', 'r']
  | '\\' => ['\\', '\\']
  | c => if isControl c then ['\\', 'u'] ++ Text.hexDigits4 c.toNat else [c]

def writeBasic : List Char → List Char
  | [] => []
  | '"' :: rest => '\\' :: '"' :: writeBasic rest
  | c :: rest => escapeChar c ++ writeBasic rest

/-- Newlines stand as they are and every third quote of a row is escaped; `quotes` counts
those of the row since the last escaped one. -/
def writeMultiBasic (quotes : Nat) : List Char → List Char
  | [] => []
  | '"' :: rest =>
    if quotes = 2 then '\\' :: '"' :: writeMultiBasic 0 rest
    else '"' :: writeMultiBasic (quotes + 1) rest
  | '\n' :: rest => '\n' :: writeMultiBasic 0 rest
  | c :: rest => escapeChar c ++ writeMultiBasic 0 rest

/-- A form over several lines begins with a newline of its own if the text has one. -/
def firstLine (text : List Char) : List Char := if '\n' ∈ text then ['\n'] else []

def writeString (text : List Char) : List Char :=
  match style text with
  | .basic => ['"'] ++ writeBasic text ++ ['"']
  | .literal => ['\''] ++ text ++ ['\'']
  | .multiBasic =>
    ['"', '"', '"'] ++ firstLine text ++ writeMultiBasic 0 text ++ ['"', '"', '"']
  | .multiLiteral => ['\'', '\'', '\''] ++ firstLine text ++ text ++ ['\'', '\'', '\'']

end EdgeReveal.Toml
