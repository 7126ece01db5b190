import EdgeReveal.Shell.Field
import EdgeReveal.Shell.Printing
import EdgeReveal.Shell.Condition

/-!
# Small programs

The programs a shell command is likely to call: they read files or their
input, write their output and have a status.
-/
namespace EdgeReveal.Shell

namespace Program

def put (text : List Char) : Act Nat := do
  return if ← write 1 text then 0 else 1

/-- The inputs that a program is given: its own input if no path is named. -/
def inputs (name : String) (paths : List (List Char)) :
    Act (List (List Char × List Char) × Nat) := do
  if paths.isEmpty then return ([([], ← readAll 0)], 0)
  let mut found := []
  let mut status := 0
  for path in paths do
    if path = ['-'] then found := found ++ [(path, ← readAll 0)]
    else
      match ← entryAt path with
      | some (.file content) => found := found ++ [(path, ofBytes content)]
      | some .folder =>
        complain s!"{name}: {quoteName path}: Is a directory"
        status := 1
      | none =>
        complain s!"{name}: {quoteName path}: No such file or directory"
        status := 1
  return (found, status)

/-- Splits arguments into option letters and operands. -/
def options : List (List Char) → List Char × List (List Char)
  | ['-', '-'] :: rest => ([], rest)
  | ('-' :: c :: letters) :: rest =>
    let (others, operands) := options rest
    (c :: letters ++ others, operands)
  | operand :: rest =>
    let (others, operands) := options rest
    (others, operand :: operands)
  | [] => ([], [])

/-- The lines of a text; the last one may lack its line end. -/
def textLines : List Char → List (List Char)
  | [] => []
  | c :: rest =>
    if c = '\n' then [] :: textLines rest
    else
      match textLines rest with
      | line :: others => (c :: line) :: others
      | [] => [[c]]

def joinLines (lines : List (List Char)) : List Char := lines.flatMap (· ++ ['\n'])

def cat (arguments : List (List Char)) : Act Nat := do
  let (_, paths) := options arguments
  let (found, status) ← inputs "cat" paths
  let _ ← put (found.flatMap (·.2))
  return status

def isBlankByte (c : Char) : Bool := c == ' ' || ('\t' ≤ c && c ≤ '\r')

/-- How many words a text has. -/
def wordCount (text : List Char) : Nat :=
  (text.foldl (fun (count, inside) c =>
    if isBlankByte c then (count, false) else (if inside then count else count + 1, true))
    (0, false)).1

def wc (arguments : List (List Char)) : Act Nat := do
  let (letters, paths) := options arguments
  let (found, status) ← inputs "wc" paths
  let letters := if letters.isEmpty then ['l', 'w', 'c'] else letters
  let countsOf (text : List Char) : List Nat :=
    (if letters.contains 'l' then [text.count '\n'] else [])
      ++ (if letters.contains 'w' then [wordCount text] else [])
      ++ (if letters.contains 'm' then [text.length] else [])
      ++ (if letters.contains 'c' then [text.length] else [])
  let rows := found.map fun (path, text) => (countsOf text, path)
  let rows := if rows.length > 1 then
      rows ++ [(countsOf (found.flatMap (·.2)), "total".toList)]
    else rows
  let width := if rows.length = 1 && (countsOf []).length = 1 then 1
    else if paths.isEmpty || paths.contains ['-'] then 7
    else (toString ((found.map (·.2.length)).foldr (· + ·) 0)).length
  let _ ← put (rows.flatMap fun (counts, path) =>
    let cells := counts.map fun n =>
      let digits := (toString n).toList
      List.replicate (width - digits.length) ' ' ++ digits
    (cells.intersperse [' ']).flatten ++ (if path.isEmpty then [] else ' ' :: path) ++ ['\n'])
  return status

/-- The wanted number of lines or bytes and the paths. -/
def amount : List (List Char) → Option (Bool × List Char) × List (List Char)
  | ['-', 'n'] :: n :: rest => (some (false, n), (amount rest).2)
  | ['-', 'c'] :: n :: rest => (some (true, n), (amount rest).2)
  | ('-' :: 'n' :: n) :: rest => (some (false, n), (amount rest).2)
  | ('-' :: 'c' :: n) :: rest => (some (true, n), (amount rest).2)
  | ('-' :: c :: n) :: rest => (some (false, c :: n), (amount rest).2)
  | path :: rest => ((amount rest).1, path :: (amount rest).2)
  | [] => (none, [])

/-- Lines with their line ends. -/
def wholeLines : List Char → List (List Char)
  | [] => []
  | c :: rest =>
    match wholeLines rest with
    | line :: others => if c = '\n' then [c] :: line :: others else (c :: line) :: others
    | [] => [[c]]

def extract (name : String) (take : Bool → List Char → List Char → List Char)
    (arguments : List (List Char)) : Act Nat := do
  let (wanted, paths) := amount arguments
  let (inBytes, n) := wanted.getD (false, ['1', '0'])
  let (found, status) ← inputs name paths
  let _ ← put (found.flatMap fun (_, text) => take inBytes n text)
  return status

def head : List (List Char) → Act Nat :=
  extract "head" fun inBytes n text =>
    let n := ((Text.natural? n).getD 0)
    if inBytes then text.take n else ((wholeLines text).take n).flatten

def tail : List (List Char) → Act Nat :=
  extract "tail" fun inBytes n text =>
    let fromStart := n.head? == some '+'
    let n := (Text.natural? (n.filter Text.isDigit)).getD 0
    let drop (length : Nat) : Nat := if fromStart then n - 1 else length - n
    if inBytes then text.drop (drop text.length)
    else ((wholeLines text).drop (drop (wholeLines text).length)).flatten

def leadingNumber (line : List Char) : Int :=
  let line := line.dropWhile fun c => c == ' ' || c == '\t'
  match line with
  | '-' :: digits => -(Text.digitsValue (digits.takeWhile Text.isDigit) : Int)
  | digits => Text.digitsValue (digits.takeWhile Text.isDigit)

def sort (arguments : List (List Char)) : Act Nat := do
  let (letters, paths) := options arguments
  let (found, status) ← inputs "sort" paths
  let lines := found.flatMap fun (_, text) => textLines text
  let before (a b : List Char) : Bool :=
    if letters.contains 'n' && leadingNumber a != leadingNumber b then
      leadingNumber a < leadingNumber b
    else inCodeOrder a b
  let sorted := lines.mergeSort fun a b => if letters.contains 'r' then before b a else before a b
  let _ ← put (joinLines (if letters.contains 'u' then sorted.eraseReps else sorted))
  return status

def uniq (arguments : List (List Char)) : Act Nat := do
  let (_, paths) := options arguments
  let (found, status) ← inputs "uniq" paths
  let _ ← put (joinLines (found.flatMap fun (_, text) => (textLines text).eraseReps))
  return status

def tee (arguments : List (List Char)) : Act Nat := do
  let (letters, paths) := options arguments
  let text ← readAll 0
  for path in paths do
    match ← openToWrite path (!letters.contains 'a') with
    | some (.file place) => record (.append place (toBytes text))
    | _ => pure ()
  put text

/-- The characters of a set with its ranges spelled out. -/
def spelledOut : List Char → List Char
  | 'a' :: '-' :: 'z' :: rest => "abcdefghijklmnopqrstuvwxyz".toList ++ spelledOut rest
  | 'A' :: '-' :: 'Z' :: rest => "ABCDEFGHIJKLMNOPQRSTUVWXYZ".toList ++ spelledOut rest
  | '0' :: '-' :: '9' :: rest => "0123456789".toList ++ spelledOut rest
  | '\\' :: c :: rest => (Printing.letterEscape? c).getD c :: spelledOut rest
  | c :: rest => c :: spelledOut rest
  | [] => []

def tr (arguments : List (List Char)) : Act Nat := do
  let (letters, sets) := options arguments
  let text ← readAll 0
  let source := spelledOut (sets.headD [])
  if letters.contains 'd' then put (text.filter (!source.contains ·))
  else
    let target := spelledOut ((sets.drop 1).headD [])
    let last := target.getLast?
    put (text.map fun c =>
      match source.idxOf? c with
      | some i => ((target[i]?).or last).getD c
      | none => c)

def seq (arguments : List (List Char)) : Act Nat := do
  match arguments.map Text.integer? with
  | [some last] => put (count 1 1 last)
  | [some first, some last] => put (count first 1 last)
  | [some first, some step, some last] =>
    if step = 0 then return 1 else put (count first step last)
  | _ => return 1
where
  count (first step last : Int) : List Char :=
    let steps := ((last - first).fdiv step + 1).toNat
    (List.range steps).flatMap fun (i : Nat) => (toString (first + step * i)).toList ++ ['\n']

/-- A duration in microseconds. -/
def duration? (text : List Char) : Option Nat := do
  let whole := text.takeWhile Text.isDigit
  let rest := text.dropWhile Text.isDigit
  let (fraction, unit) := match rest with
    | '.' :: rest => (rest.takeWhile Text.isDigit, rest.dropWhile Text.isDigit)
    | rest => ([], rest)
  if whole = [] ∧ fraction = [] then none
  let scale ← match unit with
    | [] | ['s'] => some 1
    | ['m'] => some 60
    | ['h'] => some 3600
    | ['d'] => some 86400
    | _ => none
  let micros := Text.digitsValue ((fraction ++ List.replicate 6 '0').take 6)
  return scale * (Text.digitsValue whole * 1000000 + micros)

def sleep (arguments : List (List Char)) : Act Nat := do
  match arguments.mapM duration? with
  | some (first :: others) =>
    waitUntil ((← get).now + (first :: others).foldr (· + ·) 0)
    return 0
  | _ => return 1

/-- Goes through paths and keeps the worst status. -/
def forPaths (paths : List (List Char)) (act : List Char → Act Nat) : Act Nat := do
  let mut status := 0
  for path in paths do
    status := max status (← act path)
  return status

def touch (arguments : List (List Char)) : Act Nat := do
  forPaths (options arguments).2 fun path => do
    match ← placeOf? path with
    | .error _ => return 1
    | .ok place =>
      record (.create place)
      return 0

def rm (arguments : List (List Char)) : Act Nat := do
  let (letters, paths) := options arguments
  let forced := letters.contains 'f'
  forPaths paths fun path => do
    match ← placeOf? path, ← entryAt path with
    | .ok place, some (.file _) =>
      record (.remove place)
      return 0
    | .ok place, some .folder =>
      if letters.contains 'r' || letters.contains 'R' then
        record (.remove place)
        return 0
      else
        complain s!"rm: cannot remove '{quoteName path}': Is a directory"
        return 1
    | _, _ =>
      if forced then return 0
      complain s!"rm: cannot remove '{quoteName path}': No such file or directory"
      return 1

def mkdir (arguments : List (List Char)) : Act Nat := do
  let (letters, paths) := options arguments
  forPaths paths fun path => do
    match ← entryAt path with
    | some _ => return if letters.contains 'p' then 0 else 1
    | none =>
      let fs ← lookAround
      let place := fs.placeOf (quoteName path)
      if letters.contains 'p' || fs.at? place.dropLast = some .folder then
        record (.makeFolder place)
        return 0
      else return 1

def rmdir (arguments : List (List Char)) : Act Nat := do
  forPaths (options arguments).2 fun path => do
    match ← placeOf? path, ← entryAt path with
    | .ok place, some .folder =>
      if ((← lookAround).namesIn place).isEmpty then
        record (.remove place)
        return 0
      else return 1
    | _, _ => return 1

/-- Copies one file, into the target if that is a folder. -/
def copy (removes : Bool) (arguments : List (List Char)) : Act Nat := do
  match (options arguments).2 with
  | [source, target] =>
    match ← placeOf? source, ← entryAt source, ← placeOf? target with
    | .ok sourcePlace, some (.file content), .ok targetPlace =>
      let intoFolder := (← lookAround).at? targetPlace = some .folder
      let targetPlace :=
        if intoFolder then targetPlace ++ sourcePlace.getLast?.toList else targetPlace
      if targetPlace = sourcePlace then return 1
      record (.truncate targetPlace)
      record (.append targetPlace content)
      if removes then record (.remove sourcePlace)
      return 0
    | _, _, _ => return 1
  | _ => return 1

def withoutSlashes (path : List Char) : List Char := (path.reverse.dropWhile (· == '/')).reverse

def basename (arguments : List (List Char)) : Act Nat := do
  let path := arguments.headD []
  let name := ((withoutSlashes path).reverse.takeWhile (· != '/')).reverse
  let ending := (arguments.drop 1).headD []
  let name := if name ≠ ending && ending.isSuffixOf name then
      name.take (name.length - ending.length)
    else name
  put ((if name.isEmpty && !path.isEmpty then ['/'] else name) ++ ['\n'])

def dirname (arguments : List (List Char)) : Act Nat := do
  let path := withoutSlashes (arguments.headD [])
  if path.contains '/' then
    let folder := withoutSlashes (path.reverse.dropWhile (· != '/')).reverse
    put ((if folder.isEmpty then ['/'] else folder) ++ ['\n'])
  else put ['.', '\n']

/-- The names in a folder, in order of their bytes and without those that begin with a dot. -/
def shownNames (fs : Files) (place : Place) (all : Bool) : List (List Char) :=
  ((fs.namesIn place).map ofString).filter (fun name => all || name.head? != some '.')
    |>.mergeSort inCodeOrder

def ls (arguments : List (List Char)) : Act Nat := do
  let (letters, paths) := options arguments
  let listOf (path : List Char) : Act Nat := do
    match ← placeOf? path, ← entryAt path with
    | .ok place, some .folder =>
      put (joinLines (shownNames (← lookAround) place (letters.contains 'A')))
    | _, some (.file _) => put (path ++ ['\n'])
    | _, _ =>
      complain s!"ls: cannot access '{quoteName path}': No such file or directory"
      return 2
  forPaths (if paths.isEmpty then [['.']] else paths) listOf

def printf (arguments : List (List Char)) : Act Nat := do
  let (text, status) := Printing.printf arguments
  let _ ← put text
  return status

/-- The program of a name. -/
def find? (name : List Char) : Option (List (List Char) → Act Nat) :=
  match String.ofList name with
  | "true" => some fun _ => return 0
  | "false" => some fun _ => return 1
  | "echo" => some fun arguments => put (Printing.echo arguments)
  | "printf" => some printf
  | "pwd" => some fun _ => do put (pathTo (← environment).folder ++ ['\n'])
  | "test" => some Condition.status
  | "[" => some fun arguments =>
    if arguments.getLast? = some [']'] then Condition.status arguments.dropLast else return 2
  | "cat" => some cat
  | "wc" => some wc
  | "head" => some head
  | "tail" => some tail
  | "sort" => some sort
  | "uniq" => some uniq
  | "tee" => some tee
  | "tr" => some tr
  | "seq" => some seq
  | "sleep" => some sleep
  | "touch" => some touch
  | "rm" => some rm
  | "mkdir" => some mkdir
  | "rmdir" => some rmdir
  | "cp" => some (copy false)
  | "mv" => some (copy true)
  | "ls" => some ls
  | "basename" => some basename
  | "dirname" => some dirname
  | _ => none

end Program

end EdgeReveal.Shell
