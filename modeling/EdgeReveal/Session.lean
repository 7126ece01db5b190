import EdgeReveal.Controller
import EdgeReveal.Dispatcher
import EdgeReveal.Sampler

/-!
# A running session

The sampler, the notifier and the dispatcher around their shared state and one
mailbox. Each function is what one of them does when its turn comes. The
sampler begins its next tick as soon as one is over and then waits for the
pointer, so what another actor writes meanwhile makes that tick stale.
-/
namespace EdgeReveal

/-- Who listens to the notifier: this panel's controller, or somebody else. -/
inductive Audience where
  | controller
  | other (key : String)
  deriving DecidableEq, Repr, Inhabited

/-- `tick` is how far the sampler's tick in progress has come. -/
structure Session (σ γ : Type) where
  dispatcher : Dispatcher σ γ
  controller : Controller
  tick : Phase := .ready
  notifier : Subscriptions Audience := {}
  requests : Mailbox Request := {}

namespace Session

variable {σ γ : Type} [Sink σ] [GeometrySource γ]

/-- A panel with a controller just started at time `now`. -/
def start (settings : Settings) (now : Nat) (sink : σ) (source : γ) (output : Option String)
    (notifier : Subscriptions Audience) : Except StartFault (Session σ γ) :=
  match Controller.start settings now true .controller notifier with
  | (.ok controller, notifier) =>
    let dispatcher : Dispatcher σ γ := { sink := sink, source := source, output := output }
    .ok
      { dispatcher := dispatcher
        controller := controller
        tick := .loaded dispatcher.shared.slot.load
        notifier := notifier }
  | (.error fault, _) => .error fault

def visibility (s : Session σ γ) : Visibility := s.dispatcher.shared.slot.load

/-- Ends the tick in progress with one sample and begins the next one, if the sampler is
still running. -/
def sample (s : Session σ γ) (sample : Sample) : Option (Session σ γ) :=
  s.controller.sampler.map fun machine =>
    let (_, scene) := Sampler.finish sample ⟨s.dispatcher.shared, machine, s.requests⟩ s.tick
    { s with
      dispatcher := { s.dispatcher with shared := scene.shared }
      controller := { s.controller with sampler := some scene.machine }
      tick := .loaded scene.shared.slot.load
      requests := scene.requests }

/-- Samples one pointer at most `limit` times, `interval` apart, while a state is pending.
Returns the time of the last sample too. -/
def sampleUntilSettled (pointer : Option Position) (interval : Nat) :
    Nat → Nat → Session σ γ → Option (Nat × Session σ γ)
  | 0, now, s => some (now, s)
  | limit + 1, now, s =>
    if s.visibility.isPending then
      match s.sample ⟨now + interval, pointer⟩ with
      | none => none
      | some next => sampleUntilSettled pointer interval limit (now + interval) next
    else some (now, s)

/-- Delivers a line and returns how many handlers it reached. -/
def publish (s : Session σ γ) (line : String) : Nat × Session σ γ :=
  let deliveries := s.notifier.deliveries line
  let requests := deliveries.foldl
    (fun requests (audience, event) =>
      match audience with
      | .controller => Controller.onEvent requests event
      | .other _ => requests)
    s.requests
  (deliveries.length, { s with requests := requests })

/-- Handles all that is queued as one batch and returns it. -/
def dispatch (s : Session σ γ) : List Request × Session σ γ :=
  let (batch, requests) := s.requests.drain
  if batch = [] then (batch, s)
  else
    let (_, dispatcher) := s.dispatcher.handle batch
    (batch, { s with dispatcher := dispatcher, requests := requests })

def stop (s : Session σ γ) : Session σ γ :=
  let (controller, notifier) := s.controller.stop s.notifier
  { s with controller := controller, notifier := notifier }

end Session

end EdgeReveal
