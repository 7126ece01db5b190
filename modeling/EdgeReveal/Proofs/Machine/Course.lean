import EdgeReveal.Proofs.Machine.Reasons

/-!
# The machine on its own

A course feeds the machine one sample after the other, each step from where the last one led,
with nobody else writing the visibility. What a sample does depends on the samples before it only
by way of their zones and the timer: `verdict_of_called` and `verdict_of_uncalled` say between
them all that a sample does to a pending state.
-/
namespace EdgeReveal

namespace Settings

/-- How long a pending state waits. -/
def wait (settings : Settings) : Visibility → Nat
  | .pendingVisible => milliseconds settings.showDelayMillis
  | .pendingHidden => milliseconds settings.hideDelayMillis
  | .visible | .hidden => 0

end Settings

/-- A sample taken on the followed output. -/
structure Sighting where
  height : Int32
  now : Nat
  deriving DecidableEq, Repr, Inhabited

/-- The zone that a sample falls into. -/
def Settings.zone (settings : Settings) (s : Sighting) : Zone :=
  settings.thresholds.classify s.height

structure Course where
  machine : Machine
  state : Visibility
  deriving DecidableEq, Repr

namespace Course

/-- A machine just created, and a visibility to start from. -/
def begin (settings : Settings) (now : Nat) (state : Visibility) : Course :=
  ⟨.create settings now, state⟩

/-- What the machine decides on a sample. -/
def verdict (c : Course) (s : Sighting) : Step := (c.machine.observe c.state s.height s.now).1

def step (c : Course) (s : Sighting) : Course :=
  ⟨(c.machine.observe c.state s.height s.now).2, (c.verdict s).next⟩

def run (c : Course) (sightings : List Sighting) : Course := sightings.foldl step c

variable {settings : Settings} {c : Course} {s : Sighting} {zones : List Zone}
  {pending : Visibility}

@[simp] theorem run_nil (c : Course) : c.run [] = c := rfl

@[simp] theorem run_cons (c : Course) (s : Sighting) (rest : List Sighting) :
    c.run (s :: rest) = (c.step s).run rest := rfl

@[simp] theorem run_append (c : Course) (front back : List Sighting) :
    c.run (front ++ back) = (c.run front).run back := List.foldl_append

/-! ### What the machine remembers -/

/-- The machine keeps to its settings and has been shown samples from `zones`. -/
structure Shown (settings : Settings) (zones : List Zone) (c : Course) : Prop where
  tuned : c.machine.Tuned settings
  counts : c.machine.Counts zones

theorem Shown.classify (shown : Shown settings zones c) (s : Sighting) :
    c.machine.thresholds.classify s.height = settings.zone s := by
  rw [shown.tuned.thresholds, Settings.zone]

theorem Shown.step (shown : Shown settings zones c) (s : Sighting) :
    Shown settings (zones ++ [settings.zone s]) (c.step s) := by
  refine ⟨shown.tuned.observe _ _ _, ?_⟩
  rw [← shown.classify s]
  exact shown.counts.observe _ _ _

theorem Shown.run (shown : Shown settings zones c) (sightings : List Sighting) :
    Shown settings (zones ++ sightings.map settings.zone) (c.run sightings) := by
  induction sightings generalizing c zones with
  | nil =>
    rw [List.map_nil, List.append_nil]
    exact shown
  | cons s rest ih =>
    have later := ih (shown.step s)
    rw [List.append_assoc] at later
    exact later

theorem shown_run (settings : Settings) (now : Nat) (state : Visibility)
    (sightings : List Sighting) :
    Shown settings (sightings.map settings.zone) ((begin settings now state).run sightings) := by
  have fresh : Shown settings [] (begin settings now state) :=
    ⟨Machine.tuned_create settings now, Machine.counts_create settings now⟩
  exact fresh.run sightings

/-! ### What a sample does -/

/-- All that one sample can do to a course. -/
inductive Steps (settings : Settings) (c : Course) (s : Sighting) : Prop
  | enter {pending : Visibility}
      (arms : (c.machine.counted s.height).arms c.state (settings.zone s) = some pending)
      (verdict : c.verdict s = ⟨settings.zone s, pending, false⟩)
      (timer : (c.step s).machine.timer = s.now)
  | settle {settled : Visibility}
      (quiet : (c.machine.counted s.height).arms c.state (settings.zone s) = none)
      (due : (c.machine.counted s.height).settles c.state s.now = some settled)
      (verdict : c.verdict s = ⟨settings.zone s, settled, true⟩)
      (timer : (c.step s).machine.timer = c.machine.timer)
  | stay
      (quiet : (c.machine.counted s.height).arms c.state (settings.zone s) = none)
      (early : (c.machine.counted s.height).settles c.state s.now = none)
      (verdict : c.verdict s = ⟨settings.zone s, c.state, false⟩)
      (timer : (c.step s).machine.timer = c.machine.timer)

theorem steps (shown : Shown settings zones c) (s : Sighting) : Steps settings c s := by
  have zone := shown.classify s
  have timer : (c.machine.counted s.height).timer = c.machine.timer := by
    rw [Machine.counted_eq]
  rcases Machine.observe_cases shown.tuned.delayed c.state s.height s.now with
    ⟨pending, arms, eq⟩ | ⟨quiet, settled, due, eq⟩ | ⟨quiet, early, eq⟩
  · rw [zone] at arms eq
    exact .enter arms (by rw [verdict, eq]) (by rw [step, eq])
  · rw [zone] at quiet eq
    exact .settle quiet due (by rw [verdict, eq]) (by rw [step, eq, timer])
  · rw [zone] at quiet eq
    exact .stay quiet early (by rw [verdict, eq]) (by rw [step, eq, timer])

theorem state_step (c : Course) (s : Sighting) : (c.step s).state = (c.verdict s).next := rfl

/-! ### Pending states -/

theorem settles_pending {m : Machine} (tuned : m.Tuned settings)
    (isPending : pending.isPending = true) (now : Nat) :
    m.settles pending now =
      if settings.wait pending ≤ now - m.timer then some pending.goal else none := by
  cases pending with
  | visible | hidden => cases isPending
  | pendingVisible => rw [Machine.settles, tuned.showDelay, Settings.wait, Visibility.goal]
  | pendingHidden => rw [Machine.settles, tuned.hideDelay, Settings.wait, Visibility.goal]

theorem settled_of_settles {m : Machine} {current settled : Visibility} {now : Nat}
    (due : m.settles current now = some settled) : settled.isPending = false := by
  -- the zone makes no difference to settling
  have leads := Machine.leads_of_settles .neutral due
  cases leads with
  | settleShown | settleHidden => rfl

theorem wait_pos (settings : Settings) (isPending : pending.isPending = true) :
    0 < settings.wait pending := by
  have delayed := (Machine.tuned_create settings 0).delayed
  cases pending with
  | visible | hidden => cases isPending
  | pendingVisible => exact delayed.showDelay_pos
  | pendingHidden => exact delayed.hideDelay_pos

theorem Shown.arms (shown : Shown settings zones c)
    (called : CallsFor settings pending (zones ++ [settings.zone s])) :
    (c.machine.counted s.height).arms c.state (settings.zone s) =
      if c.state = pending ∨ c.state = pending.goal then none else some pending := by
  have counts : (c.machine.counted s.height).Counts (zones ++ [settings.zone s]) := by
    rw [← shown.classify s]
    exact shown.counts.tally _
  exact arms_of_callsFor (shown.tuned.counted s.height) counts called

/-- A sample with which the samples call for a pending state enters it, even if the state being
left would be due to settle. -/
theorem verdict_of_called (shown : Shown settings zones c)
    (called : CallsFor settings pending (zones ++ [settings.zone s])) (apart : c.state ≠ pending)
    (short : c.state ≠ pending.goal) :
    c.verdict s = ⟨settings.zone s, pending, false⟩ ∧ (c.step s).machine.timer = s.now := by
  have turns := shown.arms called
  rw [if_neg (not_or_intro apart short)] at turns
  cases steps shown s with
  | enter arms verdict timer =>
    rw [turns] at arms
    obtain rfl := Option.some.inj arms
    exact ⟨verdict, timer⟩
  | settle quiet | stay quiet =>
    rw [turns] at quiet
    cases quiet

/-- At the goal there is nothing left to call for. -/
theorem verdict_of_goal (shown : Shown settings zones c)
    (called : CallsFor settings pending (zones ++ [settings.zone s]))
    (there : c.state = pending.goal) : c.verdict s = ⟨settings.zone s, c.state, false⟩ := by
  have turns := shown.arms called
  rw [if_pos (Or.inr there)] at turns
  cases steps shown s with
  | enter arms =>
    rw [turns] at arms
    cases arms
  | settle quiet due =>
    rw [there] at due
    cases pending <;> cases due
  | stay quiet early verdict => exact verdict

/-- Any other sample leaves the timer as it is, and the delay alone decides. -/
theorem verdict_of_uncalled (shown : Shown settings zones c)
    (isPending : c.state.isPending = true)
    (uncalled : ¬ CallsFor settings c.state.opposite (zones ++ [settings.zone s])) :
    (c.verdict s =
      if settings.wait c.state ≤ s.now - c.machine.timer then
        ⟨settings.zone s, c.state.goal, true⟩
      else ⟨settings.zone s, c.state, false⟩) ∧
      (c.step s).machine.timer = c.machine.timer := by
  have tuned := shown.tuned.counted s.height
  have counts : (c.machine.counted s.height).Counts (zones ++ [settings.zone s]) := by
    rw [← shown.classify s]
    exact shown.counts.tally _
  have timer : (c.machine.counted s.height).timer = c.machine.timer := by
    rw [Machine.counted_eq]
  have settles := settles_pending tuned isPending s.now
  rw [timer] at settles
  cases steps shown s with
  | enter arms =>
    -- the only pending state to enter is the opposite one, and it has not been called for
    obtain ⟨apart, otherPending⟩ := Machine.arms_turns arms
    have called := callsFor_of_arms tuned counts arms
    rw [Visibility.eq_opposite isPending otherPending apart] at called
    exact absurd called uncalled
  | settle quiet due verdict timer =>
    rw [settles, Option.ite_none_right_eq_some] at due
    obtain ⟨passed, goal⟩ := due
    obtain rfl := Option.some.inj goal
    rw [if_pos passed]
    exact ⟨verdict, timer⟩
  | stay quiet early verdict timer =>
    have running : ¬ settings.wait c.state ≤ s.now - c.machine.timer := by
      intro passed
      rw [settles, if_pos passed] at early
      cases early
    rw [if_neg running]
    exact ⟨verdict, timer⟩

/-- A step that enters a pending state has restarted the timer. -/
theorem timer_of_entering (shown : Shown settings zones c)
    (isPending : (c.step s).state.isPending = true) (enters : (c.step s).state ≠ c.state) :
    (c.step s).machine.timer = s.now := by
  rw [state_step] at isPending enters
  cases steps shown s with
  | enter arms verdict timer => exact timer
  | stay quiet early verdict =>
    rw [verdict] at enters
    exact absurd rfl enters
  | settle quiet due verdict =>
    have settled := settled_of_settles due
    rw [verdict] at isPending
    rw [isPending] at settled
    cases settled

end Course

end EdgeReveal
