import EdgeReveal.Proofs.Machine.Observe

/-!
# Samples in any order, from anywhere

The machine does not hold the visibility: whoever shows it a sample says which visibility was
found and what the time was. A history is any list of such observations, so it covers callers
that lose their exchange, overrides in between and clocks that go backwards. All that a step has
to know of the history is that the machine still keeps to its settings.
-/
namespace EdgeReveal

/-- What the machine is shown: a sample, and the visibility that was found before it. -/
structure Observation where
  current : Visibility
  height : Int32
  now : Nat
  deriving DecidableEq, Repr, Inhabited

/-- The zone that the sample falls into. -/
def Observation.zone (settings : Settings) (o : Observation) : Zone :=
  settings.thresholds.classify o.height

/-- Where one sample may lead: the visibility stays, or takes an edge of the transition graph. -/
def Visibility.successors : Visibility → List Visibility
  | .visible => [.visible, .pendingHidden]
  | .hidden => [.hidden, .pendingVisible]
  | .pendingVisible => [.pendingVisible, .visible, .pendingHidden]
  | .pendingHidden => [.pendingHidden, .hidden, .pendingVisible]

section Leads

variable {m : Machine} {now : Nat} {current : Visibility} {step : Step}

theorem Leads.mem_successors (leads : Leads m now current step) :
    step.next ∈ current.successors := by
  cases leads with
  | kept => cases current <;> simp [Visibility.successors]
  | startHide | turnToHide | startShow | turnToShow | settleShown | settleHidden =>
    simp [Visibility.successors]

/-- A step is committed if and only if it settles what was pending. -/
theorem Leads.committed_iff (leads : Leads m now current step) :
    step.committed = true ↔ current.isPending = true ∧ step.next.isPending = false := by
  cases leads with
  | kept =>
    -- nothing is both pending and settled
    cases current <;> simp [Visibility.isPending]
  | startHide | turnToHide | startShow | turnToShow | settleShown | settleHidden =>
    simp [Visibility.isPending]

end Leads

namespace Machine

/-- The machine after a history, oldest observation first. -/
def feed (m : Machine) (history : List Observation) : Machine :=
  history.foldl (fun m o => (m.observe o.current o.height o.now).2) m

variable {settings : Settings} {m : Machine} {history : List Observation}

@[simp] theorem feed_nil (m : Machine) : m.feed [] = m := rfl

@[simp] theorem feed_cons (m : Machine) (o : Observation) (rest : List Observation) :
    m.feed (o :: rest) = (m.observe o.current o.height o.now).2.feed rest := rfl

theorem Tuned.feed (tuned : m.Tuned settings) (history : List Observation) :
    (m.feed history).Tuned settings := by
  induction history generalizing m with
  | nil => exact tuned
  | cons o rest ih =>
    rw [feed_cons]
    exact ih (tuned.observe o.current o.height o.now)

theorem tuned_feed (settings : Settings) (origin : Nat) (history : List Observation) :
    ((create settings origin).feed history).Tuned settings :=
  (tuned_create settings origin).feed history

/-- Arming is the only way into a pending visibility. -/
theorem observe_enters_iff (delayed : m.Delayed) {pending : Visibility}
    (isPending : pending.isPending = true) (o : Observation) :
    (m.observe o.current o.height o.now).1.next = pending ∧ o.current ≠ pending ↔
      (m.counted o.height).arms o.current (m.thresholds.classify o.height) = some pending := by
  constructor
  · rintro ⟨enters, elsewhere⟩
    rcases observe_cases delayed o.current o.height o.now with
      ⟨armed, arms, eq⟩ | ⟨-, settled, due, eq⟩ | ⟨-, -, eq⟩ <;> rw [eq] at enters
    · rw [arms]
      exact congrArg some enters
    · -- what has settled is not pending any more
      have settles := (leads_of_settles .neutral due).committed_iff.mp rfl
      rw [← enters] at isPending
      exact absurd settles.2 (by simp [isPending])
    · exact absurd enters elsewhere
  · intro arms
    rw [observe_of_arms delayed arms]
    exact ⟨rfl, (arms_turns arms).1.symm⟩

/-- Whatever the machine has been shown before, a sample takes one edge of the transition graph at
most. It is committed exactly if it settles a pending visibility, only a concealing one enters the
pending hide and only a revealing one the pending show. A sample that arms ends where it armed,
with the timer restarted: no delay is so short that it settles at once. -/
theorem observe_transition (settings : Settings) (origin : Nat) (history : List Observation)
    (o : Observation) (m : Machine) (here : m = (create settings origin).feed history)
    (step : Step) (taken : step = (m.observe o.current o.height o.now).1) :
    step.next ∈ o.current.successors ∧
    (step.committed = true ↔ o.current.isPending = true ∧ step.next.isPending = false) ∧
    (step.next = .pendingHidden → step.next ≠ o.current → o.zone settings = .conceal) ∧
    (step.next = .pendingVisible → step.next ≠ o.current → o.zone settings = .reveal) ∧
    ∀ pending, (m.counted o.height).arms o.current (o.zone settings) = some pending →
      step.next = pending ∧ step.committed = false ∧
        (m.observe o.current o.height o.now).2.timer = o.now := by
  -- whatever the history, the delays are still positive and the thresholds those of the settings
  have tuned : m.Tuned settings := by
    rw [here]
    exact tuned_feed settings origin history
  have zone : m.thresholds.classify o.height = o.zone settings := by
    rw [tuned.thresholds, Observation.zone]
  have leads := observe_leads tuned.delayed o.current o.height o.now
  have shown : step.zone = o.zone settings := by
    rw [taken, observe_zone, zone]
  rw [← taken] at leads
  refine ⟨leads.mem_successors, leads.committed_iff, ?_, ?_, ?_⟩
  · intro hides moves
    rw [← shown, leads.of_pendingHidden moves hides]
  · intro shows moves
    rw [← shown, leads.of_pendingVisible moves shows]
  · intro pending arms
    rw [← zone] at arms
    rw [taken, observe_of_arms tuned.delayed arms]
    exact ⟨rfl, rfl, rfl⟩

/-- Settings that nobody has validated: no delay, no checks, and the thresholds the wrong way
round. -/
def careless : Settings where
  thresholdHidden := 90
  thresholdVisible := 10
  delayHide := 0
  showChecks := 0

/-- A pending hide that is long due, shown to a machine whose clock has just gone back an hour: the
sample turns it round, and the pending show does not settle although its delay is set to zero. -/
theorem observe_transition_careless :
    let m := (create careless 0).feed [⟨.visible, 95, milliseconds 3600000⟩, ⟨.hidden, 20, 0⟩]
    let step := (m.observe .pendingHidden 30 (milliseconds 7200000)).1
    careless.thresholds.classify 30 = .reveal ∧ step.next = .pendingVisible ∧
      step.committed = false ∧
      (m.observe .pendingHidden 30 (milliseconds 7200000)).2.timer = milliseconds 7200000 := by
  obtain ⟨-, -, -, reveals, arming⟩ := observe_transition careless 0
    [⟨.visible, 95, milliseconds 3600000⟩, ⟨.hidden, 20, 0⟩]
    ⟨.pendingHidden, 30, milliseconds 7200000⟩ _ rfl _ rfl
  obtain ⟨next, uncommitted, restarted⟩ := arming .pendingVisible (by decide)
  have moves : Visibility.pendingVisible ≠ .pendingHidden := by decide
  exact ⟨reveals next (next ▸ moves), next, uncommitted, restarted⟩

end Machine

end EdgeReveal
