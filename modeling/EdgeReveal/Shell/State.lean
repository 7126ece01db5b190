import EdgeReveal.Shell.Arithmetic
import EdgeReveal.Files.Journal
import EdgeReveal.Text.Utf8

/-!
# The state of a shell

What a shell knows of itself, the files and the time, and how its commands
read and write. Time goes on only while something sleeps or waits.
-/
namespace EdgeReveal.Shell

/-- What a descriptor leads to. A buffer is the near end of a pipe. -/
inductive Channel where
  | null
  | file (place : Place)
  | buffer (number : Nat)
  deriving DecidableEq, Repr, Inhabited

/-- What a subshell gets a copy of. -/
structure Environment where
  /-- What the shell or its script is called. -/
  name : List Char := ['s', 'h']
  number : Nat := 4242
  folder : Place := []
  bindings : Bindings := [(['I', 'F', 'S'], [' ', '\t', '\n'])]
  /-- The variables that a new shell gets, and those that keep their value for good. -/
  exported : List (List Char) := []
  frozen : List (List Char) := []
  functions : List (List Char × Command) := []
  arguments : List (List Char) := []
  /-- In a function, what its local variables held before, if anything. -/
  hidden : Option (List (List Char × Option (List Char))) := none
  /-- How many loops are around the running command. -/
  loops : Nat := 0
  status : Nat := 0
  channels : List (Nat × Channel) := [(0, .null), (1, .null), (2, .null)]
  traps : Bindings := []
  exitOnFailure : Bool := false
  refuseUnset : Bool := false
  noPatterns : Bool := false

instance : Inhabited Environment := ⟨{}⟩

/-- `ready` is when all of a buffer's text had been written. -/
structure Buffer where
  text : List Char := []
  ready : Nat := 0
  deriving DecidableEq, Repr, Inhabited

/-- `now` counts microseconds. -/
structure State where
  environment : Environment := {}
  journal : Journal := {}
  now : Nat := 0
  buffers : List (Nat × Buffer) := []
  /-- The status of the command substitutions in the simple command that is being run. -/
  substituted : Nat := 0
  /-- When each background command was over and its status; the first one is the latest. -/
  background : List (Nat × Nat) := []

instance : Inhabited State := ⟨{}⟩

/-- Why commands end before they are through. -/
inductive Leave where
  | exit
  | killed (signal : Nat)
  | broken (levels : Nat)
  | continued (levels : Nat)
  | returned
  | exhausted
  deriving DecidableEq, Repr, Inhabited

/-- Something that a shell does. What was done stays done if it ends early. -/
abbrev Act := ExceptT Leave (StateM State)

/-- A text of bytes as it is shown in a message. -/
def quoteName (text : List Char) : String := Text.decodeUtf8Lossy (toBytes text)

/-- Tells apart an act that went through and one that was left. -/
def attempt (act : Act Unit) : Act (Option Leave) :=
  ExceptT.mk do
    match ← act.run with
    | .ok _ => pure (.ok none)
    | .error leave => pure (.ok (some leave))

def environment : Act Environment := do return (← get).environment

def withEnvironment (change : Environment → Environment) : Act Unit :=
  modify fun s => { s with environment := change s.environment }

def setStatus (status : Nat) : Act Unit :=
  withEnvironment fun e => { e with status := status % 256 }

/-- The files as this shell finds them now. -/
def lookAround : Act Files := do
  let s ← get
  return { s.journal.filesAt s.now with current := s.environment.folder }

def record (change : FileChange) : Act Unit :=
  modify fun s => { s with journal := s.journal.record s.now change }

def channel? (descriptor : Nat) : Act (Option Channel) := do
  return ((← environment).channels.find? (·.1 == descriptor)).map (·.2)

def setChannel (descriptor : Nat) (channel : Option Channel) : Act Unit :=
  withEnvironment fun e =>
    { e with channels := (channel.toList.map fun channel => (descriptor, channel))
        ++ e.channels.filter (·.1 != descriptor) }

def newBuffer (text : List Char) : Act Nat := do
  let s ← get
  let number := s.buffers.length
  set { s with buffers := (number, { text := text, ready := s.now }) :: s.buffers }
  return number

def bufferAt (number : Nat) : Act Buffer := do
  return (((← get).buffers.find? (·.1 == number)).map (·.2)).getD {}

def setBuffer (number : Nat) (buffer : Buffer) : Act Unit :=
  modify fun s =>
    { s with buffers := s.buffers.map fun entry =>
        if entry.1 = number then (number, buffer) else entry }

/-- Writes to a descriptor; false means that it is closed. -/
def write (descriptor : Nat) (text : List Char) : Act Bool := do
  match ← channel? descriptor with
  | none => return false
  | some .null => return true
  | some (.file place) =>
    if text ≠ [] then record (.append place (toBytes text))
    return true
  | some (.buffer number) =>
    let buffer ← bufferAt number
    let now := (← get).now
    setBuffer number ⟨buffer.text ++ text, max buffer.ready now⟩
    return true

def complain (message : String) : Act Unit := do
  let _ ← write 2 (ofString (message ++ "\n"))

/-- A fault that ends the shell. -/
def refuse {α : Type} (message : String) : Act α := do
  complain s!"sh: 1: {message}"
  setStatus 2
  throw .exit

/-- Gives a variable a value; a frozen one refuses it. -/
def assign (name value : List Char) : Act Unit := do
  if (← environment).frozen.contains name then
    refuse s!"{quoteName name}: is read only"
  withEnvironment fun e => { e with bindings := e.bindings.set name value }

/-- Waits until a moment; a moment that is over does not count. -/
def waitUntil (time : Nat) : Act Unit := modify fun s => { s with now := max s.now time }

/-- What is left to read from a descriptor, after all of it has been written. -/
def pendingInput (descriptor : Nat) : Act (List Char) := do
  match ← channel? descriptor with
  | some (.buffer number) =>
    let buffer ← bufferAt number
    waitUntil buffer.ready
    return buffer.text
  | some (.file place) => return ofBytes ((← lookAround).contentAt place)
  | _ => return []

/-- Leaves only this much to read. -/
def leaveInput (descriptor : Nat) (text : List Char) : Act Unit := do
  match ← channel? descriptor with
  | some (.buffer number) =>
    let buffer ← bufferAt number
    setBuffer number { buffer with text := text }
  | _ => pure ()

def readAll (descriptor : Nat) : Act (List Char) := do
  let text ← pendingInput descriptor
  leaveInput descriptor []
  return text

/-- Does something in a copy of the environment. -/
def isolated (act : Act Unit) : Act Unit := do
  let saved ← environment
  let left ← attempt act
  withEnvironment fun e => { saved with status := e.status }
  match left with
  | some (.killed signal) => throw (.killed signal)
  | some .exhausted => throw .exhausted
  | _ => pure ()

/-- Does something and gives back what it wrote. -/
def captured (act : Act Unit) : Act (List Char) := do
  let number ← newBuffer []
  isolated do
    setChannel 1 (some (.buffer number))
    act
  return (← bufferAt number).text

/-- The place of a path, unless a part on the way there is missing. -/
def placeOf? (path : List Char) : Act (Except OsFault Place) := do
  let fs ← lookAround
  let path := Text.decodeUtf8Lossy (toBytes path)
  if path = "" then return .error .notFound
  return fs.walk (if Path.isAbsolute path then [] else fs.current) (Path.parts path)

def entryAt (path : List Char) : Act (Option Entry) := do
  match ← placeOf? path with
  | .ok place => return (← lookAround).at? place
  | .error _ => return none

/-- The path from the root to a place. -/
def pathTo (place : Place) : List Char := ofString ("/" ++ "/".intercalate place)

/-- The place that takes all and gives nothing. -/
def nullPlace : Place := ["dev", "null"]

/-- Opens a path for writing. -/
def openToWrite (path : List Char) (truncates : Bool) : Act (Option Channel) := do
  match ← placeOf? path with
  | .error _ =>
    complain s!"sh: 1: cannot create {quoteName path}: Directory nonexistent"
    return none
  | .ok place =>
    if place = nullPlace then return some .null
    match (← lookAround).at? place with
    | some .folder =>
      complain s!"sh: 1: cannot create {quoteName path}: Is a directory"
      return none
    | _ =>
      record (if truncates then .truncate place else .create place)
      return some (.file place)

/-- Opens a path for reading. -/
def openToRead (path : List Char) : Act (Option Channel) := do
  match ← entryAt path with
  | none =>
    complain s!"sh: 1: cannot open {quoteName path}: No such file"
    return none
  | some .folder => return some .null
  | some (.file content) => return some (.buffer (← newBuffer (ofBytes content)))

end EdgeReveal.Shell
