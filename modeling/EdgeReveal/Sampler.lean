import EdgeReveal.Machine
import EdgeReveal.Mailbox
import EdgeReveal.Request
import EdgeReveal.Shared

/-!
# Sampling

A tick loads the slot, asks for the pointer, reads the geometry, lets the
machine observe, exchanges the slot and announces a settled state. Each of
these is one atomic action, and other actors may write the slot or the cache
between any two of them: `advance` performs one action, `finish` all that are
left, undisturbed.
-/
namespace EdgeReveal

/-- What a tick learns from outside: the time and, unless the query failed, the pointer. -/
structure Sample where
  now : Nat
  pointer : Option Position
  deriving DecidableEq, Repr, Inhabited

inductive Outcome where
  | pointerUnavailable
  | noGeometry
  | offOutput
  | observed (step : Step)
  /-- Another actor wrote the slot meanwhile; the transition was dropped. -/
  | superseded (actual : Visibility)
  deriving DecidableEq, Repr, Inhabited

/-- The sampler's own machine beside all that it shares with the dispatcher. -/
structure Scene where
  shared : Shared := {}
  machine : Machine
  requests : Mailbox Request := {}
  deriving Repr, Inhabited

/-- How far a tick has come, with what it has found out. -/
inductive Phase where
  | ready
  | loaded (current : Visibility)
  | aimed (current : Visibility) (pointer : Position)
  | placed (current : Visibility) (height : Int32)
  | judged (current : Visibility) (step : Step)
  | announcing (step : Step)
  | done (outcome : Outcome)
  deriving DecidableEq, Repr, Inhabited

namespace Sampler

/-- Where the pointer is below the cached output's top edge, or why the sample is skipped. -/
def place (cache : GeometryCache) (pointer : Position) : Except Outcome Int32 :=
  match cache.read with
  | none => .error .noGeometry
  | some geometry =>
    match geometry.relativeY pointer with
    | none => .error .offOutput
    | some height => .ok height

/-- Performs the next atomic action of a tick. -/
def advance (sample : Sample) (scene : Scene) : Phase → Phase × Scene
  | .ready => (.loaded scene.shared.slot.load, scene)
  | .loaded current =>
    match sample.pointer with
    | none => (.done .pointerUnavailable, scene)
    | some pointer => (.aimed current pointer, scene)
  | .aimed current pointer =>
    match place scene.shared.geometry pointer with
    | .error skipped => (.done skipped, scene)
    | .ok height => (.placed current height, scene)
  | .placed current height =>
    let (step, machine) := scene.machine.observe current height sample.now
    (.judged current step, { scene with machine := machine })
  | .judged current step =>
    if step.next = current then (.done (.observed step), scene)
    else
      match scene.shared.slot.exchange current step.next with
      | (.error actual, _) => (.done (.superseded actual), scene)
      | (.ok _, slot) =>
        (if step.committed then .announcing step else .done (.observed step),
          { scene with shared := { scene.shared with slot := slot } })
  | .announcing step =>
    (.done (.observed step), { scene with requests := scene.requests.post .render })
  | .done outcome => (.done outcome, scene)

def finishJudged (scene : Scene) (current : Visibility) (step : Step) : Outcome × Scene :=
  if step.next = current then (.observed step, scene)
  else
    match scene.shared.slot.exchange current step.next with
    | (.error actual, _) => (.superseded actual, scene)
    | (.ok _, slot) =>
      let moved := { scene with shared := { scene.shared with slot := slot } }
      (.observed step,
        if step.committed then { moved with requests := moved.requests.post .render } else moved)

def finishPlaced (sample : Sample) (scene : Scene) (current : Visibility)
    (height : Int32) : Outcome × Scene :=
  let (step, machine) := scene.machine.observe current height sample.now
  finishJudged { scene with machine := machine } current step

def finishAimed (sample : Sample) (scene : Scene) (current : Visibility)
    (pointer : Position) : Outcome × Scene :=
  match place scene.shared.geometry pointer with
  | .error skipped => (skipped, scene)
  | .ok height => finishPlaced sample scene current height

def finishLoaded (sample : Sample) (scene : Scene) (current : Visibility) :
    Outcome × Scene :=
  match sample.pointer with
  | none => (.pointerUnavailable, scene)
  | some pointer => finishAimed sample scene current pointer

/-- Performs the rest of a tick with no other actor in between. -/
def finish (sample : Sample) (scene : Scene) : Phase → Outcome × Scene
  | .ready => finishLoaded sample scene scene.shared.slot.load
  | .loaded current => finishLoaded sample scene current
  | .aimed current pointer => finishAimed sample scene current pointer
  | .placed current height => finishPlaced sample scene current height
  | .judged current step => finishJudged scene current step
  | .announcing step => (.observed step, { scene with requests := scene.requests.post .render })
  | .done outcome => (outcome, scene)

/-- A whole tick without interference. -/
def tick (sample : Sample) (scene : Scene) : Outcome × Scene := finish sample scene .ready

/-- A tick during whose pointer query another actor stores `intruder`. -/
def tickAgainst (intruder : Visibility) (sample : Sample) (scene : Scene) : Outcome × Scene :=
  let (phase, loaded) := advance sample scene .ready
  finish sample { loaded with shared := loaded.shared.store intruder } phase

/-- Performing one action and then the rest is performing them all. -/
theorem finish_advance (sample : Sample) (scene : Scene) (phase : Phase) :
    finish sample (advance sample scene phase).2 (advance sample scene phase).1
      = finish sample scene phase := by
  cases phase with
  | ready => rfl
  | loaded current =>
    cases asked : sample.pointer <;> simp only [advance, finish, finishLoaded, asked]
  | aimed current pointer =>
    cases found : place scene.shared.geometry pointer <;>
      simp only [advance, finish, finishAimed, found]
  | placed current height => rfl
  | judged current step =>
    by_cases kept : step.next = current
    · simp only [advance, finish, finishJudged, kept, ite_true]
    · rcases swapped : scene.shared.slot.exchange current step.next with ⟨actual | old, slot⟩
      · simp only [advance, finish, finishJudged, kept, ite_false, swapped]
      · cases settled : step.committed <;>
          simp [advance, finish, finishJudged, kept, swapped, settled]
  | announcing step => rfl
  | done outcome => rfl

end Sampler

end EdgeReveal
