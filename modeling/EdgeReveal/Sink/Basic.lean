import EdgeReveal.Visibility

/-!
# Render sinks

A sink is whatever applies a visibility to the panel. Only the dispatcher
calls it.
-/
namespace EdgeReveal

/-- One call of a sink: the mode to draw and the visibility it was read from. -/
structure Rendering where
  shown : Bool
  state : Visibility
  deriving DecidableEq, Repr, Inhabited

def Rendering.of (state : Visibility) : Rendering := ⟨state.shown, state⟩

class Sink (σ : Type) where
  apply : σ → Rendering → σ

/-- Keeps every call, oldest first. -/
structure Recorder where
  calls : List Rendering := []
  deriving DecidableEq, Repr, Inhabited

instance : Sink Recorder where
  apply recorder rendering := ⟨recorder.calls ++ [rendering]⟩

end EdgeReveal
