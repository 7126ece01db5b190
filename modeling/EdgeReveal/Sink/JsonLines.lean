import EdgeReveal.Sink.Basic

/-!
# One JSON object per rendering

A line is written in several small writes, and the newline is one of them. A
write that fails may have let through any part of its text; the rest of that
line is then given up.
-/
namespace EdgeReveal

/-- How one write goes: it fails after accepting some of its characters, or it does not fail. -/
abbrev WriteFault := Option Nat

/-- A writer that answers its n-th write as `faults n` says. -/
structure Outlet where
  accepted : List Char := []
  writes : Nat := 0
  faults : Nat → WriteFault := fun _ => none

namespace Outlet

/-- Appends what the writer accepts and tells whether the write succeeded. -/
def write (outlet : Outlet) (text : List Char) : Bool × Outlet :=
  match outlet.faults outlet.writes with
  | none =>
    (true, { outlet with accepted := outlet.accepted ++ text, writes := outlet.writes + 1 })
  | some taken =>
    (false,
      { outlet with accepted := outlet.accepted ++ text.take taken, writes := outlet.writes + 1 })

/-- Writes texts in turn up to the first failure. -/
def writeAll (outlet : Outlet) : List (List Char) → Bool × Outlet
  | [] => (true, outlet)
  | text :: rest =>
    match outlet.write text with
    | (true, next) => next.writeAll rest
    | (false, next) => (false, next)

end Outlet

namespace Rendering

/-- The writes that make up a line, newline last. -/
def jsonPieces (r : Rendering) : List (List Char) :=
  ["\x7b".toList,
    "\"".toList, "visible".toList, "\"".toList, ":".toList, (toString r.shown).toList,
    ",".toList, "\"".toList, "state".toList, "\"".toList, ":".toList,
    "\"".toList, r.state.name.toList, "\"".toList,
    "\x7d".toList, "\n".toList]

/-- The JSON object of a rendering, without a newline. -/
def json (r : Rendering) : List Char := (r.jsonPieces.dropLast).flatten

end Rendering

structure JsonLines where
  outlet : Outlet := {}

/-- A failed line is reported nowhere but in the log. -/
instance : Sink JsonLines where
  apply sink rendering := ⟨(sink.outlet.writeAll rendering.jsonPieces).2⟩

end EdgeReveal
