import EdgeReveal.Shell.Command
import EdgeReveal.Text.Hex

/-!
# Shell arithmetic

Expressions over signed numbers of 64 bits, with variables. A variable
without a value counts as zero; assignments change the variables.
-/
namespace EdgeReveal.Shell

inductive Expression where
  | number (value : Int)
  | named (name : List Char)
  | unary (op : List Char) (operand : Expression)
  | binary (op : List Char) (left right : Expression)
  | choice (test accepted refused : Expression)
  | assign (name : List Char) (value : Expression)
  deriving Repr, Inhabited

inductive Token where
  | number (value : Int)
  | name (text : List Char)
  | mark (text : List Char)
  deriving DecidableEq, Repr, Inhabited

/-- Named variables and their texts. -/
abbrev Bindings := List (List Char × List Char)

namespace Bindings

def get? (bindings : Bindings) (name : List Char) : Option (List Char) :=
  (bindings.find? (·.1 == name)).map (·.2)

def set (bindings : Bindings) (name value : List Char) : Bindings :=
  (name, value) :: bindings.filter (·.1 != name)

def unset (bindings : Bindings) (name : List Char) : Bindings := bindings.filter (·.1 != name)

end Bindings

namespace Arithmetic

def isSpace (c : Char) : Bool := c == ' ' || c == '\t' || c == '\n'

/-- Keeps a number within 64 bits. -/
def wrap (value : Int) : Int := value.bmod UInt64.size

def digitsIn (base : Nat) (digits : List Char) : Option Int :=
  if digits = [] then none
  else
    (digits.foldlM
      (fun (n : Nat) c =>
        match Text.hexValue? c with
        | some d => if d < base then some (n * base + d) else none
        | none => none) 0).map fun n => wrap n

/-- A number: hexadecimal behind `0x`, octal behind `0`, else decimal. -/
def literal? : List Char → Option Int
  | ['0'] => some 0
  | '0' :: 'x' :: digits => digitsIn 16 digits
  | '0' :: 'X' :: digits => digitsIn 16 digits
  | '0' :: digits => digitsIn 8 digits
  | digits => digitsIn 10 digits

/-- The value of a variable's text. -/
def valueOf? (text : List Char) : Option Int :=
  match (text.dropWhile isSpace).reverse.dropWhile isSpace |>.reverse with
  | [] => some 0
  | '-' :: digits => (literal? digits).map fun n => wrap (-n)
  | '+' :: digits => literal? digits
  | digits => literal? digits

def marks : List (List Char) :=
  ["<<=", ">>=", "&&", "||", "<<", ">>", "<=", ">=", "==", "!=", "+=", "-=", "*=", "/=", "%=", "&=",
    "|=", "^=", "+", "-", "*", "/", "%", "<", ">", "&", "|", "^", "!", "~", "?", ":", "(", ")",
    "="].map String.toList

def tokens? : Nat → List Char → Option (List Token)
  | 0, _ => none
  | _ + 1, [] => some []
  | fuel + 1, c :: rest =>
    if isSpace c then tokens? fuel rest
    else
      let word := (c :: rest).takeWhile isNameChar
      let behind := (c :: rest).dropWhile isNameChar
      if Text.isDigit c then do
        let value ← literal? word
        let others ← tokens? fuel behind
        return .number value :: others
      else if isNameStart c then (tokens? fuel behind).map (.name word :: ·)
      else
        match marks.find? fun mark => mark.isPrefixOf (c :: rest) with
        | some mark => (tokens? fuel ((c :: rest).drop mark.length)).map (.mark mark :: ·)
        | none => none

/-- How tightly a binary operator binds. -/
def precedence (op : List Char) : Option Nat :=
  match String.ofList op with
  | "||" => some 1
  | "&&" => some 2
  | "|" => some 3
  | "^" => some 4
  | "&" => some 5
  | "==" | "!=" => some 6
  | "<" | ">" | "<=" | ">=" => some 7
  | "<<" | ">>" => some 8
  | "+" | "-" => some 9
  | "*" | "/" | "%" => some 10
  | _ => none

/-- The operator that an assignment applies first; the plain one applies none. -/
def assignmentOperator? (op : List Char) : Option (List Char) :=
  if ["=", "+=", "-=", "*=", "/=", "%=", "&=", "|=", "^=", "<<=", ">>="].contains (String.ofList op)
  then some op.dropLast
  else none

mutual

def expression? : Nat → List Token → Option (Expression × List Token)
  | 0, _ => none
  | fuel + 1, tokens =>
    match tokens with
    | .name name :: .mark op :: rest =>
      match assignmentOperator? op with
      | some [] => do
        let (value, rest) ← expression? fuel rest
        return (.assign name value, rest)
      | some op => do
        let (value, rest) ← expression? fuel rest
        return (.assign name (.binary op (.named name) value), rest)
      | none => conditional? fuel tokens
    | _ => conditional? fuel tokens

def conditional? : Nat → List Token → Option (Expression × List Token)
  | 0, _ => none
  | fuel + 1, tokens => do
    let (test, rest) ← operand? fuel tokens
    let (test, rest) ← binary? fuel 1 test rest
    match rest with
    | .mark ['?'] :: rest =>
      let (accepted, rest) ← expression? fuel rest
      match rest with
      | .mark [':'] :: rest =>
        let (refused, rest) ← conditional? fuel rest
        return (.choice test accepted refused, rest)
      | _ => none
    | rest => return (test, rest)

/-- Reads operators that bind at least as tightly as `least`, and what is to their right. -/
def binary? : Nat → Nat → Expression → List Token → Option (Expression × List Token)
  | 0, _, _, _ => none
  | fuel + 1, least, left, tokens =>
    match tokens with
    | .mark op :: rest =>
      match precedence op with
      | some level =>
        if level < least then some (left, tokens)
        else do
          let (right, rest) ← operand? fuel rest
          let (right, rest) ← binary? fuel (level + 1) right rest
          binary? fuel least (.binary op left right) rest
      | none => some (left, tokens)
    | _ => some (left, tokens)

def operand? : Nat → List Token → Option (Expression × List Token)
  | 0, _ => none
  | fuel + 1, tokens =>
    match tokens with
    | .number value :: rest => some (.number value, rest)
    | .name name :: rest => some (.named name, rest)
    | .mark ['('] :: rest => do
      let (inner, rest) ← expression? fuel rest
      match rest with
      | .mark [')'] :: rest => return (inner, rest)
      | _ => none
    | .mark op :: rest =>
      if [['+'], ['-'], ['!'], ['~']].contains op then do
        let (inner, rest) ← operand? fuel rest
        return (.unary op inner, rest)
      else none
    | [] => none

end

def ofBool (b : Bool) : Int := if b then 1 else 0

/-- Works a number's 64 bits bit by bit with those of another. -/
def bitwise (f : Nat → Nat → Nat) (a b : Int) : Int :=
  wrap (f (a % UInt64.size).toNat (b % UInt64.size).toNat)

def apply (op : List Char) (a b : Int) : Option Int :=
  match String.ofList op with
  | "+" => some (wrap (a + b))
  | "-" => some (wrap (a - b))
  | "*" => some (wrap (a * b))
  | "/" => if b = 0 then none else some (wrap (a.tdiv b))
  | "%" => if b = 0 then none else some (wrap (a.tmod b))
  | "<<" => some (wrap (a * Int.pow 2 (b % 64).toNat))
  | ">>" => some (a.fdiv (Int.pow 2 (b % 64).toNat))
  | "<" => some (ofBool (a < b))
  | ">" => some (ofBool (a > b))
  | "<=" => some (ofBool (a ≤ b))
  | ">=" => some (ofBool (a ≥ b))
  | "==" => some (ofBool (a == b))
  | "!=" => some (ofBool (a != b))
  | "&" => some (bitwise Nat.land a b)
  | "|" => some (bitwise Nat.lor a b)
  | "^" => some (bitwise Nat.xor a b)
  | _ => none

/-- Evaluates an expression; the side that a logical operator does not need is left alone. -/
def evaluate (bindings : Bindings) : Expression → Option (Int × Bindings)
  | .number value => some (value, bindings)
  | .named name => do
    let value ← valueOf? ((bindings.get? name).getD [])
    return (value, bindings)
  | .unary op operand => do
    let (a, bindings) ← evaluate bindings operand
    let value := match op with
      | ['-'] => wrap (-a)
      | ['!'] => ofBool (a == 0)
      | ['~'] => -a - 1
      | _ => a
    return (value, bindings)
  | .binary op left right => do
    let (a, bindings) ← evaluate bindings left
    if op = ['&', '&'] ∧ a = 0 then return (0, bindings)
    else if op = ['|', '|'] ∧ a ≠ 0 then return (1, bindings)
    else
      let (b, bindings) ← evaluate bindings right
      if op = ['&', '&'] ∨ op = ['|', '|'] then return (ofBool (b != 0), bindings)
      else
        let value ← apply op a b
        return (value, bindings)
  | .choice test accepted refused => do
    let (a, bindings) ← evaluate bindings test
    if a ≠ 0 then evaluate bindings accepted else evaluate bindings refused
  | .assign name value => do
    let (a, bindings) ← evaluate bindings value
    return (a, bindings.set name (toString a).toList)

/-- The value of an expression's text, which must not be empty. -/
def evaluateText (bindings : Bindings) (text : List Char) : Option (Int × Bindings) := do
  let tokens ← tokens? (text.length + 1) text
  let (expression, rest) ← expression? (4 * tokens.length + 8) tokens
  if rest = [] then evaluate bindings expression else none

end Arithmetic

end EdgeReveal.Shell
