import EdgeReveal.Mailbox
import EdgeReveal.Request
import EdgeReveal.Shared
import EdgeReveal.Sink.Basic

/-!
# Dispatching

The dispatcher owns every visible effect: it writes the geometry cache, stores
overrides and calls the sink. Requests that are queued together are handled
as one batch, with at most one rendering at its end; the rendering reads the
slot then, not when it was asked for.
-/
namespace EdgeReveal

/-- Where the geometry of an output is looked up; asking may change the source. -/
class GeometrySource (γ : Type) where
  query : γ → Option String → Option Geometry × γ

/-- Whether the dispatcher goes on after a batch. -/
inductive Flow where
  | proceed
  | stop
  deriving DecidableEq, Repr, Inhabited

/-- `output` names the followed output once one is configured or found. -/
structure Dispatcher (σ γ : Type) where
  sink : σ
  source : γ
  output : Option String := none
  shared : Shared := {}

namespace Dispatcher

variable {σ γ : Type} [Sink σ] [GeometrySource γ]

/-- Applies the visibility that the slot holds now. -/
def render (d : Dispatcher σ γ) : Dispatcher σ γ :=
  { d with sink := Sink.apply d.sink (.of d.shared.slot.load) }

/-- Resolves the followed output; the first one found stays the followed one. -/
def refresh (d : Dispatcher σ γ) : Dispatcher σ γ :=
  match GeometrySource.query d.source d.output with
  | (some geometry, source) =>
    { d with
      source := source
      output := some (d.output.getD geometry.label)
      shared := d.shared.writeGeometry geometry }
  | (none, source) => { d with source := source, shared := d.shared.invalidateGeometry }

/-- What is left to do after a batch: whether to render, and whether to go on. -/
structure Verdict where
  render : Bool
  flow : Flow
  deriving DecidableEq, Repr, Inhabited

/-- Processes a batch up to a shutdown; what stands behind a shutdown is dropped. -/
def process (due : Bool) : List Request → Dispatcher σ γ → Verdict × Dispatcher σ γ
  | [], d => (⟨due, .proceed⟩, d)
  | .render :: rest, d => process true rest d
  | .override _ :: rest, d => process true rest { d with shared := d.shared.store .visible }
  | .outputsChanged :: rest, d => process due rest d.refresh
  | .shutdown :: _, d => (⟨due, .stop⟩, d)

def handle (d : Dispatcher σ γ) (batch : List Request) : Flow × Dispatcher σ γ :=
  let (verdict, d) := process false batch d
  (verdict.flow, if verdict.render then d.render else d)

/-- Handles one batch after the other until a shutdown or the end of the list. -/
def serve (d : Dispatcher σ γ) : List (List Request) → Flow × Dispatcher σ γ
  | [] => (.proceed, d)
  | batch :: rest =>
    match d.handle batch with
    | (.proceed, next) => next.serve rest
    | (.stop, last) => (.stop, last)

/-- The whole run over `batches`, each of them what was queued when it was taken. -/
def run (d : Dispatcher σ γ) (batches : List (List Request)) : Flow × Dispatcher σ γ :=
  d.refresh.render.serve batches

end Dispatcher

end EdgeReveal
