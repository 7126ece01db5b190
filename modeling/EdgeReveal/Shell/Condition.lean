import EdgeReveal.Shell.Printing
import EdgeReveal.Shell.State

/-!
# Conditions

What `test` and `[` decide: texts, numbers and files. Any fault makes the
status 2 instead of 0 or 1.
-/
namespace EdgeReveal.Shell

namespace Condition

def number? (text : List Char) : Option Int := Text.integer? (text.filter (· != ' '))

/-- Decides what one operator says of one operand. -/
def unary (op operand : List Char) : Act (Option Bool) := do
  match String.ofList op with
  | "-n" => return some (operand != [])
  | "-z" => return some (operand == [])
  | "-e" | "-r" | "-w" => return some ((← entryAt operand).isSome)
  | "-f" =>
    return match ← entryAt operand with
      | some (.file _) => some true
      | _ => some false
  | "-d" => return some ((← entryAt operand) == some .folder)
  | "-x" => return some ((← entryAt operand) == some .folder)
  | "-s" =>
    return match ← entryAt operand with
      | some (.file content) => some (content != [])
      | some .folder => some true
      | none => some false
  | "-L" | "-h" | "-p" | "-S" | "-b" | "-c" | "-u" | "-g" | "-k" | "-t" => return some false
  | _ => return none

/-- Decides what one operator says of two operands. -/
def binary (op left right : List Char) : Option (Option Bool) :=
  let compare (decide : Int → Int → Bool) : Option (Option Bool) :=
    match number? left, number? right with
    | some a, some b => some (some (decide a b))
    | _, _ => some none
  match String.ofList op with
  | "=" | "==" => some (some (left == right))
  | "!=" => some (some (left != right))
  | "<" => some (some (left.map Char.toNat < right.map Char.toNat))
  | ">" => some (some (left.map Char.toNat > right.map Char.toNat))
  | "-eq" => compare fun a b => a == b
  | "-ne" => compare fun a b => a != b
  | "-lt" => compare fun a b => a < b
  | "-le" => compare fun a b => a ≤ b
  | "-gt" => compare fun a b => a > b
  | "-ge" => compare fun a b => a ≥ b
  | _ => none

mutual

/-- Alternatives between `-o`. -/
def either : Nat → List (List Char) → Act (Option (Bool × List (List Char)))
  | 0, _ => return none
  | fuel + 1, arguments => do
    match ← both fuel arguments with
    | some (first, ['-', 'o'] :: rest) =>
      return (← either fuel rest).map fun (second, rest) => (first || second, rest)
    | found => return found

/-- Conditions between `-a`. -/
def both : Nat → List (List Char) → Act (Option (Bool × List (List Char)))
  | 0, _ => return none
  | fuel + 1, arguments => do
    match ← single fuel arguments with
    | some (first, ['-', 'a'] :: rest) =>
      return (← both fuel rest).map fun (second, rest) => (first && second, rest)
    | found => return found

def single : Nat → List (List Char) → Act (Option (Bool × List (List Char)))
  | 0, _ => return none
  | fuel + 1, arguments => do
    match arguments with
    | [] => return some (false, [])
    | left :: op :: right :: rest =>
      match binary op left right with
      | some decided => return decided.map fun found => (found, rest)
      | none => prefixed fuel arguments
    | _ => prefixed fuel arguments

/-- A negation, a pair of parentheses, one operator with one operand, or a text alone. -/
def prefixed : Nat → List (List Char) → Act (Option (Bool × List (List Char)))
  | 0, _ => return none
  | fuel + 1, arguments => do
    match arguments with
    | [] => return some (false, [])
    | [text] => return some (text != [], [])
    | ['!'] :: rest => return (← single fuel rest).map fun (found, rest) => (!found, rest)
    | ['('] :: rest =>
      match ← either fuel rest with
      | some (found, [')'] :: rest) => return some (found, rest)
      | _ => return none
    | op :: operand :: rest =>
      match ← unary op operand with
      | some found => return some (found, rest)
      | none => return some (op != [], operand :: rest)

end

/-- The status of a condition. -/
def status (arguments : List (List Char)) : Act Nat := do
  match ← either (4 * arguments.length + 8) arguments with
  | some (found, []) => return if found then 0 else 1
  | _ => return 2

end Condition

end EdgeReveal.Shell
