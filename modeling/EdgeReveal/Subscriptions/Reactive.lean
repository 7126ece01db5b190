import EdgeReveal.Subscriptions.Basic

/-!
# Handlers that act

A handler may subscribe, unsubscribe and publish while it is being called. The
table is not held then, so what it does takes effect at once, but only for
publishings that begin later. Each handler here acts once, when it is first
called, so every publishing comes to an end.
-/
namespace EdgeReveal

/-- Something done to the table, from outside or by a handler. Subscribers go by a key. -/
inductive Action where
  | subscribe (key : String) (events : List String) (reaction : Option Action)
  | unsubscribe (key : String)
  | publish (line : String)
  deriving Repr, Inhabited

/-- How many actions an action stands for, counting those of the handlers it brings in. -/
def Action.weight : Action → Nat
  | .subscribe _ _ (some reaction) => reaction.weight + 1
  | .subscribe _ _ none => 1
  | .unsubscribe _ => 1
  | .publish _ => 1

/-- What one action reports. -/
inductive ActionResult where
  | done
  | removed (was : Bool)
  | delivered (count : Nat)
  deriving DecidableEq, Repr, Inhabited

/-- One call of a handler. -/
structure Call where
  key : String
  event : Event
  deriving DecidableEq, Repr, Inhabited

/-- `reactions` holds what handlers will do when first called, by subscription id; `latest`
holds the ids given out under each key, latest first. -/
structure Notifier where
  table : Subscriptions String := {}
  reactions : List (Nat × Action) := []
  latest : List (String × Nat) := []
  calls : List Call := []
  deriving Repr, Inhabited

namespace Notifier

/-- What is still to be done: an action, or a call of a handler. -/
inductive Task where
  | act (action : Action)
  | call (id : Nat) (call : Call)
  deriving Repr, Inhabited

/-- Takes the reaction of a handler out, if it has not acted yet. -/
def takeReaction (id : Nat) : List (Nat × Action) → Option (Action × List (Nat × Action))
  | [] => none
  | (owner, action) :: rest =>
    if owner = id then some (action, rest)
    else (takeReaction id rest).map fun (found, others) => (found, (owner, action) :: others)

def Task.weight : Task → Nat
  | .act action => action.weight
  | .call _ _ => 0

def Task.calls : Task → Nat
  | .act _ => 0
  | .call _ _ => 1

def reactionWeight (reactions : List (Nat × Action)) : Nat :=
  (reactions.map (·.2.weight)).foldr (· + ·) 0

def taskWeight (tasks : List Task) : Nat := (tasks.map Task.weight).foldr (· + ·) 0

def callCount (tasks : List Task) : Nat := (tasks.map Task.calls).foldr (· + ·) 0

theorem reactionWeight_take {id : Nat} {reactions others : List (Nat × Action)} {found : Action}
    (taken : takeReaction id reactions = some (found, others)) :
    reactionWeight reactions = found.weight + reactionWeight others := by
  induction reactions generalizing others with
  | nil => simp [takeReaction] at taken
  | cons first rest ih =>
    obtain ⟨owner, action⟩ := first
    simp only [takeReaction] at taken
    split at taken
    · cases taken; simp [reactionWeight]
    · obtain ⟨⟨action', rest'⟩, inner, same⟩ := Option.map_eq_some_iff.mp taken
      cases same
      have := ih inner
      simp only [reactionWeight, List.map_cons, List.foldr_cons] at *
      omega

def callTasks (recipients : List (Subscription String)) (event : Event) : List Task :=
  recipients.map fun s => .call s.id ⟨s.handler, event⟩

theorem taskWeight_callTasks (recipients : List (Subscription String)) (event : Event)
    (tasks : List Task) : taskWeight (callTasks recipients event ++ tasks) = taskWeight tasks := by
  induction recipients with
  | nil => rfl
  | cons s rest ih => simpa [taskWeight, callTasks, Task.weight] using ih

/-- Adds a subscription; its reaction waits for the first call. -/
def subscribe (n : Notifier) (key : String) (events : List String) (reaction : Option Action) :
    Notifier :=
  let (id, table) := n.table.insert events key
  { n with
    table := table
    reactions := (reaction.toList.map fun action => (id, action)) ++ n.reactions
    latest := (key, id) :: n.latest }

/-- Removes the latest subscription under a key. -/
def unsubscribe (n : Notifier) (key : String) : Bool × Notifier :=
  match n.latest.find? (·.1 == key) with
  | none => (false, n)
  | some (_, id) =>
    let (was, table) := n.table.remove id
    (was, { n with table := table })

theorem reactionWeight_subscribe (n : Notifier) (key : String) (events : List String)
    (reaction : Option Action) :
    reactionWeight (n.subscribe key events reaction).reactions
      < reactionWeight n.reactions + (Action.subscribe key events reaction).weight := by
  cases reaction <;>
    simp only [subscribe, reactionWeight, Action.weight, Option.toList, List.map_cons, List.map_nil,
      List.nil_append, List.cons_append, List.foldr_cons] <;> omega

theorem reactions_unsubscribe (n : Notifier) (key : String) :
    (n.unsubscribe key).2.reactions = n.reactions := by
  unfold unsubscribe
  split <;> rfl

/-- Works tasks off in order; a handler's own action comes before the calls behind it. -/
def work (n : Notifier) : List Task → Notifier
  | [] => n
  | .call id call :: rest =>
    match _ : takeReaction id n.reactions with
    | none => work { n with calls := n.calls ++ [call] } rest
    | some (action, others) =>
      work { n with calls := n.calls ++ [call], reactions := others } (.act action :: rest)
  | .act (.subscribe key events reaction) :: rest => work (n.subscribe key events reaction) rest
  | .act (.unsubscribe key) :: rest => work (n.unsubscribe key).2 rest
  | .act (.publish line) :: rest =>
    let event := Event.ofLine line
    work n (callTasks (n.table.recipients event) event ++ rest)
termination_by tasks => (reactionWeight n.reactions + taskWeight tasks, callCount tasks)
decreasing_by
  · simp [Prod.lex_def, taskWeight, callCount, Task.weight, Task.calls]
  · have := reactionWeight_take ‹takeReaction _ _ = some _›
    simp only [Prod.lex_def, taskWeight, callCount, Task.weight, Task.calls, List.map_cons,
      List.foldr_cons]
    omega
  · have := reactionWeight_subscribe n key events reaction
    simp only [Prod.lex_def, taskWeight, Task.weight, List.map_cons, List.foldr_cons]
    omega
  · simp only [Prod.lex_def, taskWeight, Task.weight, List.map_cons, List.foldr_cons,
      reactions_unsubscribe, Action.weight]
    omega
  · simp only [Prod.lex_def, taskWeight_callTasks]
    simp only [taskWeight, Task.weight, List.map_cons, List.foldr_cons, Action.weight]
    omega

/-- Performs one action from outside, with all that the handlers it calls do. -/
def perform (n : Notifier) (action : Action) : ActionResult × Notifier :=
  match action with
  | .subscribe key events reaction => (.done, n.subscribe key events reaction)
  | .unsubscribe key =>
    let (was, n) := n.unsubscribe key
    (.removed was, n)
  | .publish line =>
    (.delivered (n.table.recipients (Event.ofLine line)).length, n.work [.act action])

end Notifier

end EdgeReveal
