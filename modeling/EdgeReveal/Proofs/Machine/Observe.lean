import EdgeReveal.Machine

/-!
# What one sample decides

A sample enters a pending state, or settles one whose delay is over, or leaves
the visibility alone. Entering restarts the timer, so as long as neither delay
is zero a pending state never settles in the sample that enters it.
-/
namespace EdgeReveal

/-- The transition table, with the reasons: `m` is the machine after a sample taken at `now`. -/
inductive Leads (m : Machine) (now : Nat) : Visibility → Step → Prop
  | kept (zone : Zone) (current : Visibility) : Leads m now current ⟨zone, current, false⟩
  | startHide (restarted : m.timer = now) :
      Leads m now .visible ⟨.conceal, .pendingHidden, false⟩
  | turnToHide (restarted : m.timer = now) :
      Leads m now .pendingVisible ⟨.conceal, .pendingHidden, false⟩
  | startShow (confirmed : m.required ≤ m.count) (restarted : m.timer = now) :
      Leads m now .hidden ⟨.reveal, .pendingVisible, false⟩
  | turnToShow (confirmed : m.required ≤ m.count) (restarted : m.timer = now) :
      Leads m now .pendingHidden ⟨.reveal, .pendingVisible, false⟩
  | settleShown (zone : Zone) (due : m.showDelay ≤ now - m.timer) :
      Leads m now .pendingVisible ⟨zone, .visible, true⟩
  | settleHidden (zone : Zone) (due : m.hideDelay ≤ now - m.timer) :
      Leads m now .pendingHidden ⟨zone, .hidden, true⟩

section Leads

variable {m : Machine} {now : Nat} {current : Visibility} {step : Step}

/-- A step that moves to a settled state is a committed one. -/
theorem Leads.committed_of_settled (leads : Leads m now current step)
    (moves : step.next ≠ current) (settled : step.next.isPending = false) :
    step.committed = true := by
  cases leads with
  | kept => exact absurd rfl moves
  | startHide | turnToHide | startShow | turnToShow => cases settled
  | settleShown | settleHidden => rfl

theorem Leads.of_hidden (leads : Leads m now current step) (moves : step.next ≠ current)
    (hides : step.next = .hidden) : current = .pendingHidden ∧ m.hideDelay ≤ now - m.timer := by
  cases leads with
  | kept => exact absurd rfl moves
  | startHide | turnToHide | startShow | turnToShow | settleShown => cases hides
  | settleHidden zone due => exact ⟨rfl, due⟩

theorem Leads.of_visible (leads : Leads m now current step) (moves : step.next ≠ current)
    (shows : step.next = .visible) : current = .pendingVisible ∧ m.showDelay ≤ now - m.timer := by
  cases leads with
  | kept => exact absurd rfl moves
  | startHide | turnToHide | startShow | turnToShow | settleHidden => cases shows
  | settleShown zone due => exact ⟨rfl, due⟩

theorem Leads.of_pendingHidden (leads : Leads m now current step) (moves : step.next ≠ current)
    (starts : step.next = .pendingHidden) : step = ⟨.conceal, .pendingHidden, false⟩ := by
  cases leads with
  | kept => exact absurd rfl moves
  | startShow | turnToShow | settleShown | settleHidden => cases starts
  | startHide | turnToHide => rfl

theorem Leads.of_pendingVisible (leads : Leads m now current step) (moves : step.next ≠ current)
    (starts : step.next = .pendingVisible) : step = ⟨.reveal, .pendingVisible, false⟩ := by
  cases leads with
  | kept => exact absurd rfl moves
  | startHide | turnToHide | settleShown | settleHidden => cases starts
  | startShow | turnToShow => rfl

end Leads

namespace Machine

/-- The thresholds, delays and count that the settings ask for. -/
structure Tuned (settings : Settings) (m : Machine) : Prop where
  thresholds : m.thresholds = settings.thresholds
  showDelay : m.showDelay = milliseconds settings.showDelayMillis
  hideDelay : m.hideDelay = milliseconds settings.hideDelayMillis
  required : m.required = settings.requiredChecks

theorem tuned_create (settings : Settings) (now : Nat) : Tuned settings (create settings now) :=
  ⟨rfl, rfl, rfl, rfl⟩

/-- No delay is zero, whatever the settings say. -/
structure Delayed (m : Machine) : Prop where
  showDelay_pos : 0 < m.showDelay
  hideDelay_pos : 0 < m.hideDelay

theorem Tuned.delayed {settings : Settings} {m : Machine} (tuned : Tuned settings m) :
    m.Delayed where
  showDelay_pos := by
    rw [tuned.showDelay, milliseconds, nanosPerMilli, Settings.showDelayMillis, minDelayMillis]
    omega
  hideDelay_pos := by
    rw [tuned.hideDelay, milliseconds, nanosPerMilli, Settings.hideDelayMillis, minDelayMillis]
    omega

/-- The machine once it has counted a sample, with the timer still untouched. -/
def counted (m : Machine) (height : Int32) : Machine := m.tally (m.thresholds.classify height)

variable {m : Machine} {current pending settled : Visibility} {height : Int32} {now : Nat}
  {zone : Zone}

theorem counted_eq (m : Machine) (height : Int32) :
    m.counted height = { m with count := (m.counted height).count } := by
  unfold counted
  cases m.thresholds.classify height <;> rfl

/-! ### The two halves of an observation -/

theorem leads_of_arms (now : Nat) (arms : m.arms current zone = some pending) :
    Leads { m with timer := now } now current ⟨zone, pending, false⟩ := by
  cases zone with
  | reveal =>
    by_cases confirmed : m.required ≤ m.count
    · cases current <;> simp [Machine.arms, confirmed] at arms <;> subst arms
      · exact .startShow confirmed rfl
      · exact .turnToShow confirmed rfl
    · simp [Machine.arms, confirmed] at arms
  | neutral => cases arms
  | conceal =>
    cases current <;> simp [Machine.arms] at arms <;> subst arms
    · exact .startHide rfl
    · exact .turnToHide rfl

/-- Arming enters the pending state that it is not in yet. -/
theorem arms_turns (arms : m.arms current zone = some pending) :
    pending ≠ current ∧ pending.isPending = true := by
  have leads := leads_of_arms 0 arms
  cases leads with
  | kept =>
    -- the table allows staying, but no zone arms the state that already holds
    cases zone <;> cases current <;> simp [Machine.arms] at arms
  | startHide | turnToHide | startShow | turnToShow => exact ⟨by decide, rfl⟩

theorem leads_of_settles (zone : Zone) (due : m.settles current now = some settled) :
    Leads m now current ⟨zone, settled, true⟩ := by
  cases current with
  | visible | hidden => cases due
  | pendingVisible =>
    simp only [Machine.settles, Option.ite_none_right_eq_some, Option.some.injEq] at due
    obtain ⟨elapsed, rfl⟩ := due
    exact .settleShown zone elapsed
  | pendingHidden =>
    simp only [Machine.settles, Option.ite_none_right_eq_some, Option.some.injEq] at due
    obtain ⟨elapsed, rfl⟩ := due
    exact .settleHidden zone elapsed

/-- A timer that has just been restarted settles nothing. -/
theorem settles_restarted (delayed : m.Delayed) (height : Int32) (v : Visibility) (now : Nat) :
    ({ m.counted height with timer := now } : Machine).settles v now = none := by
  have showPos := delayed.showDelay_pos
  have hidePos := delayed.hideDelay_pos
  -- counting leaves both delays as they are, and no time has passed since the restart
  rw [counted_eq]
  cases v <;> simp [Machine.settles] <;> omega

theorem observe_of_arms (delayed : m.Delayed)
    (arms : (m.counted height).arms current (m.thresholds.classify height) = some pending) :
    m.observe current height now =
      (⟨m.thresholds.classify height, pending, false⟩, { m.counted height with timer := now }) := by
  have early := settles_restarted delayed height pending now
  unfold counted at arms early ⊢
  simp only [observe, arms, early]

theorem observe_of_settles
    (quiet : (m.counted height).arms current (m.thresholds.classify height) = none)
    (due : (m.counted height).settles current now = some settled) :
    m.observe current height now =
      (⟨m.thresholds.classify height, settled, true⟩, m.counted height) := by
  unfold counted at quiet due ⊢
  simp only [observe, quiet, due]

theorem observe_of_quiet
    (quiet : (m.counted height).arms current (m.thresholds.classify height) = none)
    (early : (m.counted height).settles current now = none) :
    m.observe current height now =
      (⟨m.thresholds.classify height, current, false⟩, m.counted height) := by
  unfold counted at quiet early ⊢
  simp only [observe, quiet, early]

/-- All that a sample can do: enter a pending state, settle one, or nothing. -/
theorem observe_cases (delayed : m.Delayed) (current : Visibility) (height : Int32) (now : Nat) :
    (∃ pending, (m.counted height).arms current (m.thresholds.classify height) = some pending ∧
      m.observe current height now =
        (⟨m.thresholds.classify height, pending, false⟩, { m.counted height with timer := now })) ∨
    ((m.counted height).arms current (m.thresholds.classify height) = none ∧
      ∃ settled, (m.counted height).settles current now = some settled ∧
        m.observe current height now =
          (⟨m.thresholds.classify height, settled, true⟩, m.counted height)) ∨
    ((m.counted height).arms current (m.thresholds.classify height) = none ∧
      (m.counted height).settles current now = none ∧
      m.observe current height now =
        (⟨m.thresholds.classify height, current, false⟩, m.counted height)) := by
  cases arms : (m.counted height).arms current (m.thresholds.classify height) with
  | some pending => exact .inl ⟨pending, rfl, observe_of_arms delayed arms⟩
  | none =>
    cases due : (m.counted height).settles current now with
    | some settled => exact .inr (.inl ⟨rfl, settled, rfl, observe_of_settles arms due⟩)
    | none => exact .inr (.inr ⟨rfl, rfl, observe_of_quiet arms due⟩)

/-- A sample either leaves the timer alone or moves to another state, a pending one. -/
theorem observe_turns (delayed : m.Delayed) (current : Visibility) (height : Int32) (now : Nat) :
    ((m.counted height).arms current (m.thresholds.classify height) = none ∧
      (m.observe current height now).2 = m.counted height) ∨
    ((m.observe current height now).1.next ≠ current ∧
      (m.observe current height now).1.next.isPending = true) := by
  rcases observe_cases delayed current height now with
    ⟨pending, arms, eq⟩ | ⟨quiet, settled, -, eq⟩ | ⟨quiet, -, eq⟩ <;> rw [eq]
  · exact .inr (arms_turns arms)
  · exact .inl ⟨quiet, rfl⟩
  · exact .inl ⟨quiet, rfl⟩

/-! ### What holds of every observation -/

/-- Every observation follows the transition table. -/
theorem observe_leads (delayed : m.Delayed) (current : Visibility) (height : Int32) (now : Nat) :
    Leads (m.observe current height now).2 now current (m.observe current height now).1 := by
  rcases observe_cases delayed current height now with
    ⟨pending, arms, eq⟩ | ⟨-, settled, due, eq⟩ | ⟨-, -, eq⟩ <;> rw [eq]
  · exact leads_of_arms now arms
  · exact leads_of_settles _ due
  · exact .kept _ current

theorem observe_zone (m : Machine) (current : Visibility) (height : Int32) (now : Nat) :
    (m.observe current height now).1.zone = m.thresholds.classify height := by
  unfold observe
  dsimp only
  split <;> split <;> rfl

/-- An observation counts the sample and may restart the timer; nothing else changes. -/
theorem observe_snd (m : Machine) (current : Visibility) (height : Int32) (now : Nat) :
    (m.observe current height now).2 = m.counted height ∨
      (m.observe current height now).2 = { m.counted height with timer := now } := by
  unfold observe counted
  dsimp only
  cases (m.tally (m.thresholds.classify height)).arms current (m.thresholds.classify height) with
  | some pending =>
    right
    dsimp only
    split <;> rfl
  | none =>
    left
    dsimp only
    split <;> rfl

@[simp] theorem observe_count (m : Machine) (current : Visibility) (height : Int32) (now : Nat) :
    (m.observe current height now).2.count = (m.counted height).count := by
  rcases observe_snd m current height now with eq | eq <;> rw [eq]

theorem Tuned.counted {settings : Settings} (tuned : Tuned settings m) (height : Int32) :
    Tuned settings (m.counted height) := by
  rw [counted_eq]
  exact ⟨tuned.thresholds, tuned.showDelay, tuned.hideDelay, tuned.required⟩

theorem Tuned.observe {settings : Settings} (tuned : Tuned settings m) (current : Visibility)
    (height : Int32) (now : Nat) : Tuned settings (m.observe current height now).2 := by
  have kept := tuned.counted height
  rcases observe_snd m current height now with eq | eq <;> rw [eq]
  · exact kept
  · exact ⟨kept.thresholds, kept.showDelay, kept.hideDelay, kept.required⟩

end Machine

end EdgeReveal
