import EdgeReveal.Request
import EdgeReveal.Machine
import EdgeReveal.Mailbox
import EdgeReveal.Subscriptions.Basic

/-!
# The controller of one panel

A controller owns a sampler and one subscription. Starting subscribes first,
so a sampler that cannot be started takes the subscription back; stopping ends
the sampler first and may be repeated.
-/
namespace EdgeReveal

/-- `sampler` and `subscription` are present as long as they are not given up. The sampler sleeps
for `interval` milliseconds between two ticks. -/
structure Controller where
  settings : Settings
  interval : Nat
  sampler : Option Machine
  subscription : Option Nat
  deriving DecidableEq, Repr, Inhabited

inductive StartFault where
  | spawnSampler
  deriving DecidableEq, Repr, Inhabited

namespace Controller

variable {η : Type}

/-- Starts with validated settings; `spawned` tells whether the sampler could be started. -/
def start (settings : Settings) (now : Nat) (spawned : Bool) (handler : η)
    (table : Subscriptions η) : Except StartFault Controller × Subscriptions η :=
  let settings := settings.validated
  let (id, table) := table.insert Request.watchedEvents handler
  if spawned then
    (.ok
      { settings := settings
        interval := settings.intervalMillis
        sampler := some (.create settings now)
        subscription := some id },
      table)
  else (.error .spawnSampler, (table.remove id).2)

def isRunning (c : Controller) : Bool := c.sampler.isSome

def stop (c : Controller) (table : Subscriptions η) : Controller × Subscriptions η :=
  let stopped := { c with sampler := none, subscription := none }
  match c.subscription with
  | some id => (stopped, (table.remove id).2)
  | none => (stopped, table)

/-- What the controller's handler puts on the dispatch queue. -/
def onEvent (requests : Mailbox Request) (event : Event) : Mailbox Request :=
  match Request.ofEvent? event with
  | some request => requests.post request
  | none => requests

end Controller

end EdgeReveal
