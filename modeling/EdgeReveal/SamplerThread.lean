import EdgeReveal.Sampler

/-!
# The thread of a sampler

The thread ticks, sleeps for one interval and ticks again until it is told to end. It is told so
twice: by a flag that it reads before each tick, and by a channel whose closing ends the sleep
early.
-/
namespace EdgeReveal

/-- Where in its loop the thread is. -/
inductive Stance where
  | asking
  | ticking (phase : Phase)
  | sleeping
  | ended
  deriving DecidableEq, Repr, Inhabited

structure SamplerThread where
  scene : Scene
  stance : Stance := .asking
  exit : Bool := false
  connected : Bool := true
  deriving Repr, Inhabited

namespace SamplerThread

/-- Performs the next action; `late` tells that the whole interval has been slept. -/
def act (sample : Sample) (late : Bool) (t : SamplerThread) : SamplerThread :=
  match t.stance with
  | .asking => { t with stance := if t.exit then .ended else .ticking .ready }
  | .ticking phase =>
    match Sampler.advance sample t.scene phase with
    | (.done _, scene) => { t with scene := scene, stance := .sleeping }
    | (phase, scene) => { t with scene := scene, stance := .ticking phase }
  | .sleeping =>
    if late then { t with stance := .asking }
    else if t.connected then t
    else { t with stance := .ended }
  | .ended => t

def raise (t : SamplerThread) : SamplerThread := { t with exit := true }

def hangUp (t : SamplerThread) : SamplerThread := { t with connected := false }

end SamplerThread

end EdgeReveal
