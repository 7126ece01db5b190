import EdgeReveal.Shell.Arithmetic

/-!
# Printed text

What `echo` and `printf` write for their arguments.
-/
namespace EdgeReveal.Shell

namespace Printing

def octalDigits (limit : Nat) (text : List Char) : List Char :=
  (text.take limit).takeWhile fun c => '0' ≤ c && c ≤ '7'

def octalByte (digits : List Char) : Char :=
  Char.ofNat ((digits.foldl (fun n c => n * 8 + (c.toNat - '0'.toNat)) 0) % 256)

def letterEscape? : Char → Option Char
  | 'a' => some '\x07'
  | 'b' => some '\x08'
  | 'f' => some '\x0c'
  | 'n' => some '\n'
  | 'r' => some '\r'
  | 't' => some '\t'
  | 'v' => some '\x0b'
  | '\\' => some '\\'
  | _ => none

/-- Resolves the escapes of an argument. The flag tells whether all printing ends here. -/
def unescape : Nat → List Char → List Char × Bool
  | 0, _ => ([], false)
  | _ + 1, [] => ([], false)
  | fuel + 1, '\\' :: c :: rest =>
    if c = 'c' then ([], true)
    else if c = '0' then
      let digits := octalDigits 3 rest
      let (others, ended) := unescape fuel (rest.drop digits.length)
      (octalByte digits :: others, ended)
    else
      match letterEscape? c with
      | some d =>
        let (others, ended) := unescape fuel rest
        (d :: others, ended)
      | none =>
        let (others, ended) := unescape fuel rest
        ('\\' :: c :: others, ended)
  | fuel + 1, c :: rest =>
    let (others, ended) := unescape fuel rest
    (c :: others, ended)

/-- The line that `echo` writes; `-n` leaves the line end out. -/
def echo (arguments : List (List Char)) : List Char :=
  let (arguments, lineEnd) := match arguments with
    | ['-', 'n'] :: rest => (rest, [])
    | arguments => (arguments, ['\n'])
  let text := (arguments.intersperse [' ']).flatten
  let (text, ended) := unescape (text.length + 1) text
  if ended then text else text ++ lineEnd

/-- One conversion of a format. -/
structure Conversion where
  left : Bool := false
  zero : Bool := false
  plus : Bool := false
  space : Bool := false
  alternative : Bool := false
  width : Nat := 0
  precision : Option Nat := none
  kind : Char := 's'
  deriving DecidableEq, Repr, Inhabited

def pad (conversion : Conversion) (text : List Char) : List Char :=
  let fill := List.replicate (conversion.width - text.length) ' '
  if conversion.left then text ++ fill else fill ++ text

/-- Writes a number with its sign; zeros fill up to the precision or, if asked for, the width. -/
def padNumber (conversion : Conversion) (sign digits : List Char) : List Char :=
  let wanted := match conversion.precision with
    | some n => n
    | none => if conversion.zero && !conversion.left then conversion.width - sign.length else 0
  pad conversion (sign ++ List.replicate (wanted - digits.length) '0' ++ digits)

def numberOf (text : List Char) : Int × Bool :=
  match text with
  | '"' :: c :: _ => (c.toNat, true)
  | '\'' :: c :: _ => (c.toNat, true)
  | _ =>
    match Arithmetic.valueOf? text with
    | some value => (value, true)
    | none =>
      let (sign, digits) := match text with
        | '-' :: rest => ((-1 : Int), rest)
        | rest => (1, rest)
      (sign * ((Arithmetic.digitsIn 10 (digits.takeWhile Text.isDigit)).getD 0), false)

/-- The text of one conversion, whether the argument was good and whether printing ends. -/
def convert (conversion : Conversion) (argument : List Char) : List Char × Bool × Bool :=
  let shorten (text : List Char) : List Char :=
    match conversion.precision with
    | some n => text.take n
    | none => text
  let unsigned (base : Nat) (upper : Bool) : List Char × Bool × Bool :=
    let (value, good) := numberOf argument
    let digits := Nat.toDigits base (value % UInt64.size).toNat
    let sign := if conversion.alternative && value != 0 then
        (if base = 16 then (if upper then ['0', 'X'] else ['0', 'x'])
          else if base = 8 then ['0'] else [])
      else []
    (padNumber conversion sign (if upper then digits.map Char.toUpper else digits), good, false)
  match conversion.kind with
  | 'b' =>
    let (text, ended) := unescape (argument.length + 1) argument
    (pad conversion (shorten text), true, ended)
  | 'c' => (pad conversion (argument.take 1), true, false)
  | 'd' | 'i' =>
    let (value, good) := numberOf argument
    let sign := if value < 0 then ['-'] else if conversion.plus then ['+']
      else if conversion.space then [' '] else []
    (padNumber conversion sign (Nat.toDigits 10 value.natAbs), good, false)
  | 'u' => unsigned 10 false
  | 'o' => unsigned 8 false
  | 'x' => unsigned 16 false
  | 'X' => unsigned 16 true
  | _ => (pad conversion (shorten argument), true, false)

def flagOf (c : Char) (conversion : Conversion) : Option Conversion :=
  match c with
  | '-' => some { conversion with left := true }
  | '0' => some { conversion with zero := true }
  | '+' => some { conversion with plus := true }
  | ' ' => some { conversion with space := true }
  | '#' => some { conversion with alternative := true }
  | _ => none

def flags : List Char → Conversion → Conversion × List Char
  | [], conversion => (conversion, [])
  | c :: rest, conversion =>
    match flagOf c conversion with
    | some conversion => flags rest conversion
    | none => (conversion, c :: rest)

/-- A number in a conversion, or a star that takes it from the arguments. -/
def size (text : List Char) (arguments : List (List Char)) :
    Option Int × List Char × List (List Char) :=
  match text with
  | '*' :: rest => (some (numberOf (arguments.headD [])).1, rest, arguments.drop 1)
  | _ =>
    let digits := text.takeWhile Text.isDigit
    (Arithmetic.digitsIn 10 digits, text.drop digits.length, arguments)

/-- What is printed so far. -/
structure Printed where
  text : List Char := []
  arguments : List (List Char) := []
  good : Bool := true
  ended : Bool := false
  deriving Repr, Inhabited

/-- Goes through a format once. -/
def format : Nat → List Char → Printed → Printed
  | 0, _, printed => printed
  | _ + 1, [], printed => printed
  | fuel + 1, '%' :: '%' :: rest, printed =>
    format fuel rest { printed with text := printed.text ++ ['%'] }
  | fuel + 1, '%' :: rest, printed =>
    let (conversion, rest) := flags rest {}
    let (width, rest, arguments) := size rest printed.arguments
    let conversion := match width with
      | some n => { conversion with width := n.natAbs, left := conversion.left || n < 0 }
      | none => conversion
    let (conversion, rest, arguments) := match rest with
      | '.' :: rest =>
        let (precision, rest, arguments) := size rest arguments
        ({ conversion with precision := some (precision.getD 0).toNat }, rest, arguments)
      | rest => (conversion, rest, arguments)
    match rest with
    | [] => { printed with good := false, ended := true }
    | kind :: rest =>
      if ['s', 'b', 'c', 'd', 'i', 'u', 'o', 'x', 'X'].contains kind then
        let (text, good, ended) := convert { conversion with kind := kind } (arguments.headD [])
        let printed : Printed :=
          ⟨printed.text ++ text, arguments.drop 1, printed.good && good, ended⟩
        if ended then printed else format fuel rest printed
      else { printed with good := false, ended := true }
  | fuel + 1, '\\' :: c :: rest, printed =>
    let digits := octalDigits 3 (c :: rest)
    if digits ≠ [] then
      format fuel ((c :: rest).drop digits.length)
        { printed with text := printed.text ++ [octalByte digits] }
    else if c = 'c' then { printed with ended := true }
    else
      match letterEscape? c with
      | some d => format fuel rest { printed with text := printed.text ++ [d] }
      | none => format fuel rest { printed with text := printed.text ++ ['\\', c] }
  | fuel + 1, c :: rest, printed => format fuel rest { printed with text := printed.text ++ [c] }

/-- Goes through a format as long as it takes arguments and some are left. -/
def formatAll (template : List Char) : Nat → Printed → Printed
  | 0, printed => printed
  | limit + 1, printed =>
    let next := format (template.length + 1) template printed
    if next.ended || next.arguments.isEmpty
        || next.arguments.length == printed.arguments.length then next
    else formatAll template limit next

/-- What `printf` writes and its status. -/
def printf : List (List Char) → List Char × Nat
  | [] => ([], 2)
  | template :: arguments =>
    let printed := formatAll template (arguments.length + 1) { arguments := arguments }
    (printed.text, if printed.good then 0 else 1)

end Printing

end EdgeReveal.Shell
