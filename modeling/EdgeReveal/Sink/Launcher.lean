import EdgeReveal.Sink.Basic

/-!
# Commands on a flip of visibility

The launcher runs a shell command whenever the mode to draw differs from the
one of the call before. The commands it has started are its children: at every
call it first asks each of them whether it has ended, and drops those that it
need not ask again.
-/
namespace EdgeReveal

/-- What is answered about a child. -/
inductive Poll where
  | running
  | ended (success : Bool)
  /-- The question itself fails. -/
  | failed
  deriving DecidableEq, Repr, Inhabited

/-- Only a child that is known to run will be asked about again. -/
def Poll.keeps : Poll → Bool
  | .running => true
  | .ended _ | .failed => false

/-- A system that starts its n-th command if `starts n` holds and gives the n-th answer about a
child as `answers n` says. -/
structure Processes where
  starts : Nat → Bool := fun _ => true
  answers : Nat → Poll := fun _ => .ended true
  attempts : Nat := 0
  questions : Nat := 0

namespace Processes

def ask (processes : Processes) : Poll × Processes :=
  (processes.answers processes.questions, { processes with questions := processes.questions + 1 })

/-- Tells whether the command is running now. -/
def start (processes : Processes) : Bool × Processes :=
  (processes.starts processes.attempts, { processes with attempts := processes.attempts + 1 })

/-- Asks about each child in turn and returns those that are kept. -/
def reap (processes : Processes) : List String → List String × Processes
  | [] => ([], processes)
  | child :: rest =>
    let (answer, processes) := processes.ask
    let (kept, processes) := processes.reap rest
    (if answer.keeps then child :: kept else kept, processes)

end Processes

/-- `launched` are the commands that it has tried to start, `children` those it has to ask about,
oldest first. -/
structure Launcher where
  onShow : Option String := none
  onHide : Option String := none
  last : Option Bool := none
  children : List String := []
  processes : Processes := {}
  launched : List String := []

namespace Launcher

def commandFor (launcher : Launcher) (shown : Bool) : Option String :=
  if shown then launcher.onShow else launcher.onHide

def reap (launcher : Launcher) : Launcher :=
  let (children, processes) := launcher.processes.reap launcher.children
  { launcher with children := children, processes := processes }

/-- A command that cannot be started is reported nowhere but in the log. -/
def launch (launcher : Launcher) (command : String) : Launcher :=
  let (started, processes) := launcher.processes.start
  { launcher with
    children := if started then launcher.children ++ [command] else launcher.children
    processes := processes
    launched := launcher.launched ++ [command] }

/-- The mode is remembered even if no command is configured for it. -/
def apply (launcher : Launcher) (shown : Bool) : Launcher :=
  let launcher := launcher.reap
  if launcher.last = some shown then launcher
  else
    let launcher := { launcher with last := some shown }
    match launcher.commandFor shown with
    | some command => launcher.launch command
    | none => launcher

end Launcher

instance : Sink Launcher where
  apply launcher rendering := launcher.apply rendering.shown

end EdgeReveal
