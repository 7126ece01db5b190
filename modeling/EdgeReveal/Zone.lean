/-!
# Zones below the top edge

Two thresholds, in pixels from the top of the output, cut the heights into a
band that reveals the panel, a neutral band and a band that conceals it.
-/
namespace EdgeReveal

inductive Zone where
  | reveal
  | neutral
  | conceal
  deriving DecidableEq, Repr, Inhabited

def Zone.name : Zone → String
  | .reveal => "show"
  | .neutral => "neutral"
  | .conceal => "hide"

/-- `hidden` is the lowest revealing height, `visible` the lowest one that does not conceal. -/
structure Thresholds where
  hidden : UInt32
  visible : UInt32
  deriving DecidableEq, Repr, Inhabited

/-- The revealing test runs first, so an inverted pair still gives one zone per height. -/
def Thresholds.classify (thresholds : Thresholds) (height : Int32) : Zone :=
  if height.toInt ≤ thresholds.hidden.toNat then .reveal
  else if (thresholds.visible.toNat : Int) < height.toInt then .conceal
  else .neutral

end EdgeReveal
