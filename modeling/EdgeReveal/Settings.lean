import EdgeReveal.Zone

/-!
# Tuning of the decision engine

Settings are 32-bit words, as the user wrote them. Values that would make the
engine misbehave are replaced, never refused: `Settings.validated` always
returns a well-formed setting and leaves a well-formed one alone.
-/
namespace EdgeReveal

/-- Time is counted in nanoseconds from an arbitrary origin. -/
def nanosPerMilli : Nat := 1000000

def milliseconds (count : Nat) : Nat := count * nanosPerMilli

/-- No pending state settles sooner than this many milliseconds after it was entered. -/
def minDelayMillis : Nat := 10

/-- Heights are in pixels from the top edge, delays and the interval in milliseconds. -/
structure Settings where
  thresholdHidden : UInt32 := 1
  thresholdVisible : UInt32 := 50
  delayShow : UInt32 := 0
  delayHide : UInt32 := 3000
  checkInterval : UInt32 := 100
  showChecks : UInt32 := 2
  deriving DecidableEq, Repr, Inhabited

namespace Settings

/-- What the engine relies on: a positive interval, at least one check, ordered thresholds. -/
structure WellFormed (s : Settings) : Prop where
  interval : 1 ≤ s.checkInterval.toNat
  checks : 1 ≤ s.showChecks.toNat
  ordered : s.thresholdHidden.toNat < s.thresholdVisible.toNat

def withInterval (s : Settings) : Settings :=
  if s.checkInterval = 0 then { s with checkInterval := ({} : Settings).checkInterval } else s

def withChecks (s : Settings) : Settings :=
  if s.showChecks = 0 then { s with showChecks := 1 } else s

/-- The thresholds are repaired as a pair: replacing one side alone could leave them inverted. -/
def withThresholds (s : Settings) : Settings :=
  if s.thresholdVisible ≤ s.thresholdHidden then
    { s with
      thresholdHidden := ({} : Settings).thresholdHidden
      thresholdVisible := ({} : Settings).thresholdVisible }
  else s

def validated (s : Settings) : Settings := s.withInterval.withChecks.withThresholds

def thresholds (s : Settings) : Thresholds := ⟨s.thresholdHidden, s.thresholdVisible⟩

/-- Time between two samples, in milliseconds; never zero. -/
def intervalMillis (s : Settings) : Nat := max s.checkInterval.toNat 1

def showDelayMillis (s : Settings) : Nat := max s.delayShow.toNat minDelayMillis

def hideDelayMillis (s : Settings) : Nat := max s.delayHide.toNat minDelayMillis

/-- How many revealing samples in a row confirm a show; never zero. -/
def requiredChecks (s : Settings) : Nat := max 1 s.showChecks.toNat

end Settings

end EdgeReveal
