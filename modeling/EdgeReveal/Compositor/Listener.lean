import EdgeReveal.Compositor.EventStream

/-!
# The event listener

The listener connects to the event socket, reads the connection to its end and
connects again, until it is told to stop. It asks whether to stop before every
attempt to connect and before every read, so a turn is one question and what
comes after it.
-/
namespace EdgeReveal

/-- What comes of an attempt to connect. -/
inductive Attempt where
  | refused
  | connected (arrivals : List Arrival)
  deriving DecidableEq, Repr, Inhabited

/-- An open connection: the buffer, and the reads that are still to come. -/
structure Connection where
  buffer : List UInt8 := []
  reads : List Read
  deriving DecidableEq, Repr, Inhabited

/-- `published` are the lines handed to the subscriptions so far. -/
structure Listener where
  attempts : List Attempt
  connection : Option Connection := none
  published : List String := []
  deriving DecidableEq, Repr, Inhabited

namespace Listener

/-- What the listener does once it has asked and is not to stop. -/
def turn (l : Listener) : Listener :=
  match l.connection with
  | none =>
    match l.attempts with
    | [] => l
    | .refused :: rest => { l with attempts := rest }
    | .connected arrivals :: rest =>
      { l with attempts := rest, connection := some { reads := EventStream.reads [] arrivals } }
  | some ⟨_, []⟩ => l
  | some ⟨buffer, read :: rest⟩ =>
    match EventStream.receive buffer read with
    | none => { l with connection := none }
    | some (line, kept) =>
      { l with connection := some ⟨kept, rest⟩, published := l.published ++ line.toList }

/-- The listener when it is told to stop after so many turns. -/
def run (l : Listener) : Nat → Listener
  | 0 => l
  | turns + 1 => l.turn.run turns

end Listener

end EdgeReveal
