/-!
# Panel visibility

The panel is shown or hidden, or waits to become the other one. The waiting
states keep drawing what the state being left drew. A slot publishes one
visibility to several actors and changes it by compare and exchange.
-/
namespace EdgeReveal

/-- A pending state is named for the settled state its delay leads to. -/
inductive Visibility where
  | visible
  | hidden
  | pendingVisible
  | pendingHidden
  deriving DecidableEq, Repr, Inhabited

namespace Visibility

/-- Whether the panel is drawn; a pending state keeps the mode of the state being left. -/
def shown : Visibility → Bool
  | visible | pendingHidden => true
  | hidden | pendingVisible => false

def isPending : Visibility → Bool
  | pendingVisible | pendingHidden => true
  | visible | hidden => false

def name : Visibility → String
  | visible => "visible"
  | hidden => "hidden"
  | pendingVisible => "pending_visible"
  | pendingHidden => "pending_hidden"

def all : List Visibility := [visible, hidden, pendingVisible, pendingHidden]

def ofName? (text : String) : Option Visibility := all.find? (·.name == text)

def code : Visibility → Nat
  | visible => 0
  | hidden => 1
  | pendingVisible => 2
  | pendingHidden => 3

def ofCode? : Nat → Option Visibility
  | 0 => some visible
  | 1 => some hidden
  | 2 => some pendingVisible
  | 3 => some pendingHidden
  | _ => none

theorem ofCode?_code (v : Visibility) : ofCode? v.code = some v := by
  cases v <;> rfl

theorem code_of_ofCode? {n : Nat} {v : Visibility} (read : ofCode? n = some v) : v.code = n := by
  unfold ofCode? at read
  split at read <;> cases read <;> rfl

end Visibility

/-- One published visibility. Each operation stands for one atomic access. -/
structure Slot where
  held : Visibility := .visible
  deriving DecidableEq, Repr, Inhabited

namespace Slot

def load (slot : Slot) : Visibility := slot.held

def store (_slot : Slot) (next : Visibility) : Slot := ⟨next⟩

/-- Replaces `expected` by `next`, or reports the value that is really held. -/
def exchange (slot : Slot) (expected next : Visibility) : Except Visibility Visibility × Slot :=
  if slot.held = expected then (.ok slot.held, ⟨next⟩) else (.error slot.held, slot)

@[simp] theorem load_store (slot : Slot) (next : Visibility) : (slot.store next).load = next := rfl

theorem exchange_of_eq {slot : Slot} {expected : Visibility} (next : Visibility)
    (same : slot.load = expected) : slot.exchange expected next = (.ok expected, ⟨next⟩) := by
  simp only [load] at same
  simp [exchange, same]

theorem exchange_of_ne {slot : Slot} {expected : Visibility} (next : Visibility)
    (other : slot.load ≠ expected) : slot.exchange expected next = (.error slot.load, slot) := by
  simp only [load] at other
  simp [exchange, load, other]

end Slot

end EdgeReveal
