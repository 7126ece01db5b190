import EdgeReveal.Shell.Run

/-!
# Commands side by side

Commands are started one after another and run at the same time. Each one
works at its own moments, and the journal puts all changes in order.
-/
namespace EdgeReveal

/-- `ended` is when the last command so far is through. -/
structure Jobs where
  journal : Journal := {}
  now : Nat := 0
  ended : Nat := 0
  deriving Repr, Inhabited

namespace Jobs

/-- How deep a command may nest and how often it may repeat itself. -/
def patience : Nat := 10000

/-- Starts a command in the current folder. A text with a NUL cannot be handed over. -/
def launch (jobs : Jobs) (command : String) : Jobs :=
  if '\x00' ∈ command.toList then jobs
  else
    let start : Shell.State :=
      { environment := { folder := jobs.journal.start.current }
        journal := jobs.journal
        now := jobs.now }
    let (_, finished) := (Shell.execute patience (Shell.ofString command)).run start
    { jobs with
      journal := finished.journal
      ended := max jobs.ended ((finished.background.map (·.1)).foldl max finished.now) }

def launchAll (jobs : Jobs) (commands : List String) : Jobs := commands.foldl launch jobs

/-- Waits until all commands are through. -/
def settle (jobs : Jobs) : Jobs := { jobs with now := max jobs.now jobs.ended }

def files (jobs : Jobs) : Files := jobs.journal.filesAt jobs.now

end Jobs

end EdgeReveal
