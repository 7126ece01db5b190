import EdgeReveal.Toml.Document
import EdgeReveal.Toml.Quoting
import EdgeReveal.Toml.Scalar

/-!
# Reading TOML

A text is read line by line into the lines of a document, and they are put
together to its table. A text with any fault has no table.
-/
namespace EdgeReveal.Toml

def skipSpace (text : List Char) : List Char := text.dropWhile isSpace

/-- What follows a newline at the front. -/
def newline? : List Char → Option (List Char)
  | '\n' :: rest => some rest
  | '\r' :: '\n' :: rest => some rest
  | _ => none

/-- Reads the rest of a line that may hold a comment but no value any more. -/
def lineEnd? (text : List Char) : Option (List Char) :=
  match skipSpace text with
  | [] => some []
  | '#' :: rest =>
    match rest.dropWhile isPlain with
    | [] => some []
    | rest => newline? rest
  | rest => newline? rest

/-- Skips blanks, newlines and comments between the parts of a bracketed value. -/
def skipLines (inComment : Bool) : List Char → Option (List Char)
  | [] => some []
  | c :: rest =>
    if startsLine (c :: rest) then skipLines (inComment && c == '\r') rest
    else if inComment then if isPlain c then skipLines true rest else none
    else if isSpace c then skipLines false rest
    else if c = '#' then skipLines true rest
    else some (c :: rest)

def isBareKey (c : Char) : Bool :=
  Text.isDigit c || ('a' ≤ c && c ≤ 'z') || ('A' ≤ c && c ≤ 'Z') || c == '_' || c == '-'

/-- One name of a key: bare, or a string of one line. -/
def name? (text : List Char) : Option (String × List Char) :=
  let bare := text.takeWhile isBareKey
  if bare ≠ [] then some (String.ofList bare, text.dropWhile isBareKey)
  else (singleLine? text).map fun (name, rest) => (String.ofList name, rest)

/-- Names with dots between them; blanks may stand around each name. -/
def path? : Nat → List Char → Option (List String × List Char)
  | 0, _ => none
  | fuel + 1, text => do
    let (name, rest) ← name? (skipSpace text)
    match skipSpace rest with
    | '.' :: rest =>
      let (names, rest) ← path? fuel rest
      return (name :: names, rest)
    | rest => return ([name], rest)

/-- How many brackets may stand inside each other. -/
def maxNesting : Nat := 80

mutual

/-- Reads a value; `depth` brackets may still be opened in it. -/
def value? : Nat → Nat → List Char → Option (Value × List Char)
  | 0, _, _ => none
  | fuel + 1, depth, text =>
    match text with
    | '"' :: _ | '\'' :: _ =>
      (string? text).map fun (chars, rest) => (.text (String.ofList chars), rest)
    | '[' :: rest =>
      match depth with
      | 0 => none
      | depth + 1 =>
        (items? fuel depth rest).map fun (items, rest) => (.array false items, rest)
    | '\x7b' :: rest =>
      match depth with
      | 0 => none
      | depth + 1 => do
        let (pairs, rest) ← pairs? fuel depth rest
        return (.table .inline (← addPairs [] pairs), rest)
    | text => Scalar.read? text

/-- Reads items through the closing bracket; a comma may follow the last one. -/
def items? : Nat → Nat → List Char → Option (List Value × List Char)
  | 0, _, _ => none
  | fuel + 1, depth, text => do
    match ← skipLines false text with
    | ']' :: rest => return ([], rest)
    | text =>
      let (first, rest) ← value? fuel depth text
      match ← skipLines false rest with
      | ',' :: rest =>
        let (others, rest) ← items? fuel depth rest
        return (first :: others, rest)
      | ']' :: rest => return ([first], rest)
      | _ => none

/-- Reads pairs through the closing brace; a comma may follow the last one. -/
def pairs? : Nat → Nat → List Char → Option (List Pair × List Char)
  | 0, _, _ => none
  | fuel + 1, depth, text => do
    match ← skipLines false text with
    | '\x7d' :: rest => return ([], rest)
    | text =>
      let (first, rest) ← pair? fuel depth text
      match ← skipLines false rest with
      | ',' :: rest =>
        let (others, rest) ← pairs? fuel depth rest
        return (first :: others, rest)
      | '\x7d' :: rest => return ([first], rest)
      | _ => none

/-- Reads a key, an equals sign and a value. -/
def pair? : Nat → Nat → List Char → Option (Pair × List Char)
  | 0, _, _ => none
  | fuel + 1, depth, text => do
    let (path, rest) ← path? (fuel + 1) text
    match rest with
    | '=' :: rest =>
      let (value, rest) ← value? fuel depth (skipSpace rest)
      return (⟨path, value⟩, rest)
    | _ => none

end

/-- Reads a line that is not blank, through its newline. -/
def line? (fuel : Nat) (text : List Char) : Option (Line × List Char) :=
  match text with
  | '[' :: '[' :: rest => do
    let (path, rest) ← path? fuel rest
    match rest with
    | ']' :: ']' :: rest => return (.rowHeader path, ← lineEnd? rest)
    | _ => none
  | '[' :: rest => do
    let (path, rest) ← path? fuel rest
    match rest with
    | ']' :: rest => return (.header path, ← lineEnd? rest)
    | _ => none
  | text => do
    let (pair, rest) ← pair? fuel maxNesting text
    return (.pair pair, ← lineEnd? rest)

/-- Reads the lines of a document; every round reads a character or is the last. -/
def lines? : Nat → List Char → Option (List Line)
  | 0, _ => none
  | fuel + 1, text =>
    match skipSpace text with
    | [] => some []
    | c :: rest =>
      if c = '#' ∨ startsLine (c :: rest) then do lines? fuel (← lineEnd? (c :: rest))
      else do
        let (line, rest) ← line? (fuel + 1) (c :: rest)
        return line :: (← lines? fuel rest)

/-- A byte order mark may stand before a document. -/
def skipMark : List Char → List Char
  | '\uFEFF' :: rest => rest
  | text => text

def parse? (text : String) : Option Entries := do
  ofLines (← lines? (2 * text.length + 2) (skipMark text.toList))

end EdgeReveal.Toml
