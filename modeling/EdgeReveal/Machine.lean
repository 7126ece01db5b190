import EdgeReveal.Settings
import EdgeReveal.Visibility

/-!
# The visibility machine

Each sample first arms: a confirmed show or a concealing sample may enter a
pending state and restart the timer. Then the timer is looked at, and a
pending state whose delay is over settles. The visibility itself is held
elsewhere; the machine keeps the run of revealing samples and the timer.
-/
namespace EdgeReveal

/-- What one sample decided. `committed` marks a pending state that settled. -/
structure Step where
  zone : Zone
  next : Visibility
  committed : Bool
  deriving DecidableEq, Repr, Inhabited

/-- Delays and the timer are in nanoseconds. -/
structure Machine where
  thresholds : Thresholds
  showDelay : Nat
  hideDelay : Nat
  required : Nat
  count : Nat
  timer : Nat
  deriving DecidableEq, Repr, Inhabited

namespace Machine

/-- The run of revealing samples stops counting at the largest 32-bit word. -/
def countLimit : Nat := UInt32.size - 1

def create (settings : Settings) (now : Nat) : Machine where
  thresholds := settings.thresholds
  showDelay := milliseconds settings.showDelayMillis
  hideDelay := milliseconds settings.hideDelayMillis
  required := settings.requiredChecks
  count := 0
  timer := now

/-- Counts a sample: a revealing one lengthens the run, any other ends it. -/
def tally (m : Machine) : Zone → Machine
  | .reveal => { m with count := min (m.count + 1) countLimit }
  | .neutral | .conceal => { m with count := 0 }

/-- The pending state that a sample in `zone` enters from `current`, if any. -/
def arms (m : Machine) (current : Visibility) : Zone → Option Visibility
  | .reveal =>
    if m.required ≤ m.count then
      match current with
      | .hidden | .pendingHidden => some .pendingVisible
      | .visible | .pendingVisible => none
    else none
  | .conceal =>
    match current with
    | .visible | .pendingVisible => some .pendingHidden
    | .hidden | .pendingHidden => none
  | .neutral => none

/-- The settled state that a pending one has reached at `now`, if its delay is over. -/
def settles (m : Machine) (pending : Visibility) (now : Nat) : Option Visibility :=
  match pending with
  | .pendingVisible => if m.showDelay ≤ now - m.timer then some .visible else none
  | .pendingHidden => if m.hideDelay ≤ now - m.timer then some .hidden else none
  | .visible | .hidden => none

/-- Applies one sample of `height` taken at `now` to the visibility `current`. -/
def observe (m : Machine) (current : Visibility) (height : Int32) (now : Nat) : Step × Machine :=
  let zone := m.thresholds.classify height
  let counted := m.tally zone
  let (entered, armed) :=
    match counted.arms current zone with
    | some pending => (pending, { counted with timer := now })
    | none => (current, counted)
  match armed.settles entered now with
  | some settled => (⟨zone, settled, true⟩, armed)
  | none => (⟨zone, entered, false⟩, armed)

end Machine

end EdgeReveal
