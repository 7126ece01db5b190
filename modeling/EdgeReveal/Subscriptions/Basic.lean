import EdgeReveal.Event

/-!
# Subscriptions

A table of handlers by event name. Every subscription gets an id of its own,
never used before, and `"*"` stands for every name.
-/
namespace EdgeReveal

structure Subscription (η : Type) where
  id : Nat
  events : List String
  handler : η
  deriving DecidableEq, Repr, Inhabited

def Subscription.wants {η : Type} (s : Subscription η) (name : String) : Bool :=
  s.events.any fun event => event == name || event == "*"

structure Subscriptions (η : Type) where
  nextId : Nat := 0
  entries : List (Subscription η) := []
  deriving DecidableEq, Repr, Inhabited

namespace Subscriptions

variable {η : Type}

def insert (t : Subscriptions η) (events : List String) (handler : η) : Nat × Subscriptions η :=
  (t.nextId, ⟨t.nextId + 1, t.entries ++ [⟨t.nextId, events, handler⟩]⟩)

/-- Tells whether there was such a subscription. -/
def remove (t : Subscriptions η) (id : Nat) : Bool × Subscriptions η :=
  (t.entries.any (·.id == id), { t with entries := t.entries.filter (·.id != id) })

def isEmpty (t : Subscriptions η) : Bool := t.entries.isEmpty

/-- The subscriptions that an event is delivered to, chosen before any of them is called. -/
def recipients (t : Subscriptions η) (event : Event) : List (Subscription η) :=
  t.entries.filter (·.wants event.name)

/-- The handlers that a line is delivered to, each with the event they get. -/
def deliveries (t : Subscriptions η) (line : String) : List (η × Event) :=
  let event := Event.ofLine line
  (t.recipients event).map fun s => (s.handler, event)

end Subscriptions

end EdgeReveal
