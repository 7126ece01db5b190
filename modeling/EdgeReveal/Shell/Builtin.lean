import EdgeReveal.Shell.Programs

/-!
# Builtins

What a shell does itself rather than by a program: parameters and options,
loops and functions it leaves, traps, its folder, its descriptors and waiting.
-/
namespace EdgeReveal.Shell

/-- The number of a signal given by number or name. -/
def signalNumber? (text : List Char) : Option Nat :=
  let names := ["EXIT", "HUP", "INT", "QUIT", "ILL", "TRAP", "ABRT", "BUS", "FPE", "KILL",
    "USR1", "SEGV", "USR2", "PIPE", "ALRM", "TERM", "STKFLT", "CHLD", "CONT", "STOP", "TSTP",
    "TTIN", "TTOU", "URG", "XCPU", "XFSZ", "VTALRM", "PROF", "WINCH", "IO", "PWR", "SYS"]
  match Text.natural? text with
  | some n => if n ≤ 64 then some n else none
  | none =>
    let name := (String.ofList text).toUpper
    names.idxOf? (if name.startsWith "SIG" then String.ofList (name.toList.drop 3) else name)

/-- Signals that do nothing to a program that has not asked for them. -/
def isHarmless (signal : Nat) : Bool := [0, 17, 18, 23, 28].contains signal

def trapKey (signal : Nat) : List Char := (toString signal).toList

/-- The value of a parameter, if it has one. -/
def parameterValue (name : List Char) : Act (Option (List Char)) := do
  let e ← environment
  match name with
  | ['?'] => return some (toString e.status).toList
  | ['#'] => return some (toString e.arguments.length).toList
  | ['$'] => return some (toString e.number).toList
  | ['!'] =>
    let count := (← get).background.length
    return if count = 0 then none else some (toString (e.number + count)).toList
  | ['-'] =>
    return some ((if e.exitOnFailure then ['e'] else []) ++ (if e.noPatterns then ['f'] else [])
      ++ (if e.refuseUnset then ['u'] else []))
  | ['@'] | ['*'] =>
    return if e.arguments.isEmpty then none
      else some ((e.arguments.intersperse [' ']).flatten)
  | _ =>
    match Text.natural? name with
    | some 0 => return some e.name
    | some n => return e.arguments[n - 1]?
    | none =>
      return match e.bindings.get? name with
        | some value => some value
        | none => if name = "PWD".toList then some (pathTo e.folder) else none

def separators : Act (List Char) := do
  return ((← environment).bindings.get? "IFS".toList).getD [' ', '\t', '\n']

/-- All positional parameters as glyphs. -/
def positional (quoted joined : Bool) : Act (List Glyph) := do
  let arguments := (← environment).arguments
  if quoted && joined then
    let separator := (← separators).take 1
    return Glyph.ofText true ((arguments.intersperse separator).flatten)
  else if arguments.isEmpty then return if quoted then [.nothing] else []
  else
    let each := arguments.map fun text =>
      (if quoted then [.quotes] else []) ++ Glyph.ofText quoted text
    return (each.intersperse [.gap]).flatten

def trimNewlines (text : List Char) : List Char := (text.reverse.dropWhile (· == '\n')).reverse

/-- Hides a variable's value until the running function is over. -/
def makeLocal (name : List Char) : Act Unit := do
  match (← environment).hidden with
  | none => refuse "local: not in a function"
  | some hidden =>
    withEnvironment fun e => { e with hidden := some ((name, e.bindings.get? name) :: hidden) }

def restoreHidden : List (List Char × Option (List Char)) → Bindings → Bindings
  | [], bindings => bindings
  | (name, some value) :: rest, bindings => restoreHidden rest (bindings.set name value)
  | (name, none) :: rest, bindings => restoreHidden rest (bindings.unset name)

/-- Cuts `name=value`. -/
def cutAssignment (text : List Char) : List Char × Option (List Char) :=
  match text.dropWhile (· != '=') with
  | _ :: value => (text.takeWhile (· != '='), some value)
  | [] => (text, none)

def isName (text : List Char) : Bool :=
  text.head?.any isNameStart && text.all isNameChar

/-- Sets options and positional parameters as `set` does. -/
def setOptions : List (List Char) → Act Nat
  | [] => return 0
  | ['-', '-'] :: rest => do
    withEnvironment fun e => { e with arguments := rest }
    return 0
  | ['-', 'o'] :: _ :: rest => setOptions rest
  | ['+', 'o'] :: _ :: rest => setOptions rest
  | (sign :: letters) :: rest => do
    if sign = '-' || sign = '+' then
      let on := sign == '-'
      withEnvironment fun e =>
        { e with
          exitOnFailure := if letters.contains 'e' then on else e.exitOnFailure
          refuseUnset := if letters.contains 'u' then on else e.refuseUnset
          noPatterns := if letters.contains 'f' then on else e.noPatterns }
      setOptions rest
    else
      withEnvironment fun e => { e with arguments := (sign :: letters) :: rest }
      return 0
  | [] :: rest => do
    withEnvironment fun e => { e with arguments := [] :: rest }
    return 0

def changeFolder (arguments : List (List Char)) : Act Nat := do
  let path := arguments.headD []
  match ← placeOf? path, ← entryAt path with
  | .ok place, some .folder =>
    assign "OLDPWD".toList (pathTo (← environment).folder)
    withEnvironment fun e => { e with folder := place }
    return 0
  | _, _ =>
    complain s!"sh: 1: cd: can't cd to {quoteName path}"
    return 2

/-- Takes one line of input; the flag tells whether the line had an end. -/
def readLine (raw : Bool) : List Char → List Char × List Char × Bool
  | [] => ([], [], false)
  | '\\' :: c :: rest =>
    if raw then
      if c = '\n' then (['\\'], rest, true)
      else
        let (line, left, ended) := readLine raw rest
        ('\\' :: c :: line, left, ended)
    else
      let (line, left, ended) := readLine raw rest
      (if c = '\n' then line else c :: line, left, ended)
  | c :: rest =>
    if c = '\n' then ([], rest, true)
    else
      let (line, left, ended) := readLine raw rest
      (c :: line, left, ended)

def readNames (arguments : List (List Char)) : Act Nat := do
  let (raw, names) := match arguments with
    | ['-', 'r'] :: names => (true, names)
    | names => (false, names)
  let (line, left, ended) := readLine raw (← pendingInput 0)
  leaveInput 0 left
  let values := shareOut (← separators) names.length line
  for (name, value) in names.zip values do
    assign name value
  return if ended then 0 else 1

/-- Leaves as many loops as asked for, but not more than there are; without one it does nothing. -/
def leaveLoops (leave : Nat → Leave) (arguments : List (List Char)) : Act Nat := do
  let loops := (← environment).loops
  if loops = 0 then return 0
  throw (leave (min loops (max 1 ((Text.natural? (arguments.headD ['1'])).getD 1))))

/-- Builtins that need no command to be run. -/
def ownBuiltin? (name : List Char) : Option (List (List Char) → Act Nat) :=
  match String.ofList name with
  | ":" => some fun _ => return 0
  | "exit" => some fun arguments => do
    match arguments with
    | [] => pure ()
    | status :: _ =>
      match Text.natural? status with
      | some n => setStatus n
      | none =>
        complain s!"sh: 1: exit: Illegal number: {quoteName status}"
        setStatus 2
    throw .exit
  | "return" => some fun arguments => do
    match arguments.head? with
    | some status => setStatus ((Text.natural? status).getD 2)
    | none => pure ()
    throw .returned
  | "break" => some (leaveLoops .broken)
  | "continue" => some (leaveLoops .continued)
  | "set" => some setOptions
  | "shift" => some fun arguments => do
    let n := (Text.natural? (arguments.headD ['1'])).getD 1
    let e ← environment
    if e.arguments.length < n then
      complain "sh: 1: shift: can't shift that many"
      setStatus 2
      throw .exit
    else
      withEnvironment fun e => { e with arguments := e.arguments.drop n }
      return 0
  | "unset" => some fun arguments => do
    let (ofFunctions, names) := match arguments with
      | ['-', 'f'] :: names => (true, names)
      | ['-', 'v'] :: names => (false, names)
      | names => (false, names)
    withEnvironment fun e =>
      if ofFunctions then
        { e with functions := e.functions.filter fun entry => !names.contains entry.1 }
      else { e with bindings := e.bindings.filter fun entry => !names.contains entry.1 }
    return 0
  | "export" => some fun arguments => do
    for argument in arguments do
      let (name, value) := cutAssignment argument
      if let some value := value then assign name value
      withEnvironment fun e => { e with exported := name :: e.exported }
    return 0
  | "readonly" => some fun arguments => do
    for argument in arguments do
      let (name, value) := cutAssignment argument
      if let some value := value then assign name value
      withEnvironment fun e => { e with frozen := name :: e.frozen }
    return 0
  | "local" => some fun arguments => do
    for argument in arguments do
      let (name, value) := cutAssignment argument
      makeLocal name
      if let some value := value then assign name value
    return 0
  | "read" => some readNames
  | "cd" => some changeFolder
  | "umask" | "times" | "hash" | "alias" | "unalias" | "ulimit" | "jobs" => some fun _ => return 0
  | "trap" => some fun arguments => do
    match arguments with
    | ['-'] :: signals =>
      for signal in signals.filterMap signalNumber? do
        withEnvironment fun e => { e with traps := e.traps.unset (trapKey signal) }
    | action :: signals =>
      for signal in signals.filterMap signalNumber? do
        withEnvironment fun e => { e with traps := e.traps.set (trapKey signal) action }
    | [] => pure ()
    return 0
  | "wait" => some fun arguments => do
    let background := (← get).background
    match arguments.getLast? with
    | none =>
      for (time, _) in background do
        waitUntil time
      return 0
    | some target =>
      let place := (Text.natural? target).getD 0 - (← environment).number
      match background.reverse[place - 1]? with
      | some (time, status) =>
        if place = 0 then return 127
        waitUntil time
        return status
      | none => return 127
  | _ => none

/-- Builtins whose assignments stay and whose faults end the shell. -/
def isSpecialBuiltin (name : List Char) : Bool :=
  [":", ".", "break", "continue", "eval", "exec", "exit", "export", "readonly", "return", "set",
    "shift", "times", "trap", "unset"].contains (String.ofList name)

/-- A signal and the numbers it is for. -/
def killArguments : List (List Char) → Option (Nat × List (List Char))
  | ['-', 's'] :: signal :: rest => (signalNumber? signal).map fun n => (n, rest)
  | ['-', '-'] :: rest => some (15, rest)
  | ('-' :: signal) :: rest => (signalNumber? signal).map fun n => (n, rest)
  | rest => some (15, rest)

/-- Opens what a redirection asks for; false means that it failed. -/
def openFor (descriptor : Nat) (direction : Direction) (target : List Char) : Act Bool := do
  match direction with
  | .duplicate =>
    if target = ['-'] then
      setChannel descriptor none
      return true
    match Text.natural? target with
    | some source =>
      match ← channel? source with
      | some channel =>
        setChannel descriptor (some channel)
        return true
      | none =>
        complain s!"sh: 1: {source}: Bad file descriptor"
        return false
    | none => refuse "Syntax error: Bad fd number"
  | .document =>
    setChannel descriptor (some (.buffer (← newBuffer target)))
    return true
  | .read =>
    match ← openToRead target with
    | some channel =>
      setChannel descriptor (some channel)
      return true
    | none => return false
  | .write | .append | .readWrite =>
    match ← openToWrite target (direction == .write) with
    | some channel =>
      setChannel descriptor (some channel)
      return true
    | none => return false

end EdgeReveal.Shell
