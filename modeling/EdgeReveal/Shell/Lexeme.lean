import EdgeReveal.Shell.Command

/-!
# Small parts of a command text

Blanks and comments, reserved words, operators, names, and the rules by which
a word goes on or ends.
-/
namespace EdgeReveal.Shell

def isBlank (c : Char) : Bool := c == ' ' || c == '\t'

def isOperator (c : Char) : Bool := [';', '&', '|', '<', '>', '(', ')'].contains c

def isSpecial (c : Char) : Bool := ['@', '*', '#', '?', '-', '$', '!'].contains c

/-- Where a word is being read, which decides where it ends and what a quote means there. -/
inductive Mode where
  | bare
  | brace
  | double
  | braceInDouble
  | arithmetic (depth : Nat)
  | document
  deriving DecidableEq, Repr, Inhabited

namespace Mode

/-- Whether plain characters count as quoted here. -/
def isQuoting : Mode → Bool
  | bare | brace => false
  | double | braceInDouble | arithmetic _ | document => true

def stopsAt (c : Char) (rest : List Char) : Mode → Bool
  | bare => isBlank c || c == '\n' || isOperator c
  | brace | braceInDouble => c == '}'
  | double => c == '"'
  | arithmetic depth => depth == 0 && c == ')' && rest.head? == some ')'
  | document => false

/-- Whether the word may end where the text ends. -/
def endsWithText : Mode → Bool
  | bare | document => true
  | _ => false

/-- The mode behind a character, which matters only for nested parentheses. -/
def after (c : Char) : Mode → Mode
  | arithmetic depth =>
    if c = '(' then arithmetic (depth + 1)
    else if c = ')' then arithmetic (depth - 1)
    else arithmetic depth
  | mode => mode

/-- Whether a backslash takes the meaning from this character here. -/
def escapes (c : Char) : Mode → Bool
  | bare | brace => true
  | double => ['$', '\x60', '"', '\\'].contains c
  | braceInDouble => ['$', '\x60', '"', '\\', '}'].contains c
  | arithmetic _ | document => ['$', '\x60', '\\'].contains c

end Mode

/-- Skips blanks, joined lines and a comment. -/
def skipBlanks : List Char → List Char
  | '\\' :: '\n' :: rest => skipBlanks rest
  | c :: rest =>
    if isBlank c then skipBlanks rest
    else if c = '#' then rest.dropWhile (· != '\n')
    else c :: rest
  | [] => []

/-- Skips blanks, comments and line ends. -/
def skipBreaks (inComment : Bool) : List Char → List Char
  | '\\' :: '\n' :: rest => skipBreaks false rest
  | c :: rest =>
    if c = '\n' then skipBreaks false rest
    else if inComment then skipBreaks true rest
    else if isBlank c then skipBreaks false rest
    else if c = '#' then skipBreaks true rest
    else c :: rest
  | [] => []

/-- The text before a mark and the text behind it. -/
def cutAt (mark : Char) (text : List Char) : Option (List Char × List Char) :=
  match text.dropWhile (· != mark) with
  | [] => none
  | _ :: rest => some (text.takeWhile (· != mark), rest)

/-- The text inside backquotes, with its escapes undone, and the text behind it. -/
def backquoted (quoted : Bool) : List Char → Option (List Char × List Char)
  | [] => none
  | '\x60' :: rest => some ([], rest)
  | '\\' :: c :: rest =>
    (backquoted quoted rest).map fun (inner, rest) =>
      if ['$', '\x60', '\\'].contains c || (quoted && c == '"') then (c :: inner, rest)
      else ('\\' :: c :: inner, rest)
  | c :: rest => (backquoted quoted rest).map fun (inner, rest) => (c :: inner, rest)

def reserved : List String :=
  ["if", "then", "elif", "else", "fi", "while", "until", "for", "do", "done", "case", "esac",
    "\x7b", "\x7d", "!"]

/-- A reserved word at the front. -/
def keyword? (text : List Char) : Option (String × List Char) :=
  let ends (c : Char) : Bool := isBlank c || c == '\n' || isOperator c
  let word := String.ofList (text.takeWhile (!ends ·))
  if reserved.contains word then some (word, text.dropWhile (!ends ·)) else none

def expect? (word : String) (text : List Char) : Option (List Char) :=
  match keyword? (skipBreaks false text) with
  | some (found, rest) => if found = word then some rest else none
  | none => none

/-- Whether a list of commands ends here. -/
def closes (text : List Char) : Bool :=
  match text with
  | [] => true
  | ')' :: _ => true
  | ';' :: ';' :: _ => true
  | _ =>
    match keyword? text with
    | some (word, _) => ["then", "elif", "else", "fi", "do", "done", "esac", "\x7d"].contains word
    | none => false

/-- A redirection operator with the descriptor it is for, or the one it is for by itself. -/
def redirectOperator? (text : List Char) : Option (Nat × Direction × Bool × List Char) :=
  let digits := text.takeWhile Text.isDigit
  let descriptor (otherwise : Nat) : Nat :=
    if digits = [] then otherwise
    else digits.foldl (fun n c => n * 10 + (c.toNat - '0'.toNat)) 0
  match text.dropWhile Text.isDigit with
  | '<' :: '<' :: '-' :: rest => some (descriptor 0, .document, true, rest)
  | '<' :: '<' :: rest => some (descriptor 0, .document, false, rest)
  | '<' :: '&' :: rest => some (descriptor 0, .duplicate, false, rest)
  | '<' :: '>' :: rest => some (descriptor 0, .readWrite, false, rest)
  | '<' :: rest => some (descriptor 0, .read, false, rest)
  | '>' :: '>' :: rest => some (descriptor 1, .append, false, rest)
  | '>' :: '&' :: rest => some (descriptor 1, .duplicate, false, rest)
  | '>' :: '|' :: rest => some (descriptor 1, .write, false, rest)
  | '>' :: rest => some (descriptor 1, .write, false, rest)
  | _ => none

/-- Cuts a text into lines without their line ends. -/
def linesOf : List Char → List (List Char)
  | [] => []
  | c :: rest =>
    if c = '\n' then [] :: linesOf rest
    else
      match linesOf rest with
      | line :: others => (c :: line) :: others
      | [] => [[c]]

/-- Takes the lines of a here-document off the text behind a line. -/
def takeDocument (strip : Bool) (delimiter : List Char) :
    List (List Char) → List Char × List (List Char)
  | [] => ([], [])
  | line :: rest =>
    let line := if strip then line.dropWhile (· == '\t') else line
    if line = delimiter then ([], rest)
    else
      let (body, rest) := takeDocument strip delimiter rest
      (line ++ '\n' :: body, rest)

/-- An assignment at the front of a word: the name and the value. -/
def assignment? (word : Word) : Option (List Char × Word) :=
  let rec go : Word → List Char → Option (List Char × Word)
    | .plain c :: rest, name =>
      if c = '=' then if name = [] then none else some (name.reverse, rest)
      else if isNameChar c && (name ≠ [] || isNameStart c) then go rest (c :: name)
      else none
    | _, _ => none
  go word []

/-- A function's name before its empty pair of parentheses. -/
def functionName? (text : List Char) : Option (List Char × List Char) :=
  let name := text.takeWhile isNameChar
  match name, skipBlanks (text.dropWhile isNameChar) with
  | c :: _, '(' :: rest =>
    match skipBlanks rest with
    | ')' :: rest => if isNameStart c then some (name, rest) else none
    | _ => none
  | _, _ => none

def formOf? : List Char → Option (Form × List Char)
  | ':' :: '-' :: rest => some (.default true, rest)
  | ':' :: '=' :: rest => some (.assign true, rest)
  | ':' :: '+' :: rest => some (.alternative true, rest)
  | ':' :: '?' :: rest => some (.require true, rest)
  | '-' :: rest => some (.default false, rest)
  | '=' :: rest => some (.assign false, rest)
  | '+' :: rest => some (.alternative false, rest)
  | '?' :: rest => some (.require false, rest)
  | '%' :: '%' :: rest => some (.trimEnd true, rest)
  | '%' :: rest => some (.trimEnd false, rest)
  | '#' :: '#' :: rest => some (.trimStart true, rest)
  | '#' :: rest => some (.trimStart false, rest)
  | _ => none

/-- A parameter's name in braces: a name, a number or one special character. -/
def braceName? (text : List Char) : Option (List Char × List Char) :=
  match text with
  | [] => none
  | c :: rest =>
    if isNameStart c then some (text.takeWhile isNameChar, text.dropWhile isNameChar)
    else if Text.isDigit c then some (text.takeWhile Text.isDigit, text.dropWhile Text.isDigit)
    else if isSpecial c then some ([c], rest)
    else none

end EdgeReveal.Shell
