import EdgeReveal.Proofs.Machine.Observe
import Mathlib.Data.List.Induction

/-!
# Why a pending state is entered

A show has to be confirmed by a run of revealing samples; a single concealing sample starts a
hide. The machine keeps none of the samples, only a count of them, and `Machine.Counts` says
what the count tells about the samples observed so far.
-/
namespace EdgeReveal

namespace Visibility

/-- The pending state that leads the other way. -/
def opposite : Visibility → Visibility
  | .visible => .hidden
  | .hidden => .visible
  | .pendingVisible => .pendingHidden
  | .pendingHidden => .pendingVisible

/-- The settled state that a pending one is waiting for. -/
def goal : Visibility → Visibility
  | .visible | .pendingVisible => .visible
  | .hidden | .pendingHidden => .hidden

variable {pending other : Visibility}

theorem ne_opposite (v : Visibility) : v ≠ v.opposite := by
  cases v <;> decide

/-- A goal is settled. -/
theorem isPending_goal (v : Visibility) : v.goal.isPending = false := by
  cases v <;> rfl

/-- The other pending state is the opposite one. -/
theorem eq_opposite (isPending : pending.isPending = true) (otherPending : other.isPending = true)
    (apart : other ≠ pending) : other = pending.opposite := by
  cases pending with
  | visible | hidden => cases isPending
  | pendingVisible | pendingHidden =>
    cases other with
    | visible | hidden => cases otherPending
    | pendingVisible | pendingHidden => first | rfl | exact absurd rfl apart

end Visibility

/-- The samples observed so far, oldest first, give a reason to enter the pending state. -/
def CallsFor (settings : Settings) : Visibility → List Zone → Prop
  | .pendingVisible, zones => List.replicate settings.requiredChecks .reveal <:+ zones
  | .pendingHidden, zones => [.conceal] <:+ zones
  | .visible, _ | .hidden, _ => False

namespace Machine

/-- The count is the length of the run of revealing samples at the end, up to its limit. -/
def Counts (m : Machine) (zones : List Zone) : Prop :=
  ∀ k, k ≤ countLimit → (k ≤ m.count ↔ List.replicate k .reveal <:+ zones)

variable {m : Machine} {zones : List Zone} {settings : Settings}

theorem counts_create (settings : Settings) (now : Nat) : (create settings now).Counts [] := by
  intro k _
  rw [List.suffix_nil, List.replicate_eq_nil_iff]
  exact Nat.le_zero

theorem Counts.tally (counts : m.Counts zones) (zone : Zone) :
    (m.tally zone).Counts (zones ++ [zone]) := by
  intro k within
  -- a longer run is a shorter one with the new sample at its end
  cases k with
  | zero => exact ⟨fun _ => List.nil_suffix, fun _ => Nat.zero_le _⟩
  | succ k =>
    have shorter := counts k (Nat.le_of_succ_le within)
    rw [List.replicate_succ', List.suffix_concat_iff]
    cases zone with
    | reveal =>
      constructor
      · intro counted
        -- the count saturates, but no run asked about is longer than its limit
        have counted : k + 1 ≤ min (m.count + 1) countLimit := counted
        refine .inr ⟨_, rfl, shorter.mp ?_⟩
        omega
      · rintro (none | ⟨run, same, suffix⟩)
        · simp at none
        · obtain rfl := List.append_cancel_right same
          have counted := shorter.mpr suffix
          change k + 1 ≤ min (m.count + 1) countLimit
          omega
    | neutral | conceal =>
      constructor
      · intro counted
        exact absurd counted (Nat.not_succ_le_zero k)
      · rintro (none | ⟨run, same, suffix⟩)
        · simp at none
        · simp at same

theorem Counts.observe (counts : m.Counts zones) (current : Visibility) (height : Int32)
    (now : Nat) :
    (m.observe current height now).2.Counts (zones ++ [m.thresholds.classify height]) := by
  intro k within
  rw [observe_count]
  exact counts.tally _ k within

end Machine

section Reasons

variable {settings : Settings} {zones : List Zone} {m : Machine} {zone : Zone}
  {pending current : Visibility} {now : Nat} {decided : Step}

theorem requiredChecks_pos (settings : Settings) : 0 < settings.requiredChecks :=
  Nat.lt_of_lt_of_le Nat.one_pos (Nat.le_max_left _ _)

theorem requiredChecks_le (settings : Settings) :
    settings.requiredChecks ≤ Machine.countLimit := by
  have word := settings.showChecks.toNat_lt
  rw [Settings.requiredChecks, Machine.countLimit, UInt32.size]
  omega

/-- A run that is long enough ends with a revealing sample. -/
theorem ends_revealing
    (called : List.replicate settings.requiredChecks .reveal <:+ zones ++ [zone]) :
    zone = .reveal := by
  obtain ⟨k, required⟩ := Nat.exists_eq_add_one.mpr (requiredChecks_pos settings)
  rw [required, List.replicate_succ', List.suffix_concat_iff] at called
  rcases called with none | ⟨run, same, -⟩
  · simp at none
  · exact (List.singleton_inj.mp (List.append_inj' same rfl).2).symm

theorem ends_concealing (called : [.conceal] <:+ zones ++ [zone]) : zone = .conceal := by
  rcases List.suffix_concat_iff.mp called with none | ⟨run, same, -⟩
  · simp at none
  · have last := congrArg List.getLast? same
    simpa [eq_comm] using last

theorem isPending_of_callsFor (called : CallsFor settings pending zones) :
    pending.isPending = true := by
  cases pending with
  | visible | hidden => exact called.elim
  | pendingVisible | pendingHidden => rfl

/-- No samples call for both pending states. -/
theorem not_callsFor_opposite (called : CallsFor settings pending zones) :
    ¬ CallsFor settings pending.opposite zones := by
  intro opposed
  obtain ⟨front, zone, rfl⟩ : ∃ front zone, zones = front ++ [zone] := by
    rcases List.eq_nil_or_concat zones with rfl | ⟨front, zone, concat⟩
    · cases pending with
      | visible | hidden => exact called.elim
      | pendingVisible => simp [CallsFor, Visibility.opposite] at opposed
      | pendingHidden => simp [CallsFor] at called
    · exact ⟨front, zone, concat.trans List.concat_eq_append⟩
  cases pending with
  | visible | hidden => exact called
  | pendingVisible =>
    have revealing := ends_revealing called
    have concealing := ends_concealing opposed
    rw [revealing] at concealing
    cases concealing
  | pendingHidden =>
    have revealing := ends_revealing opposed
    have concealing := ends_concealing called
    rw [revealing] at concealing
    cases concealing

/-- A sample with which the samples call for a pending state enters it, from anywhere but that
state and the one it leads to. -/
theorem arms_of_callsFor (tuned : m.Tuned settings) (counts : m.Counts (zones ++ [zone]))
    (called : CallsFor settings pending (zones ++ [zone])) :
    m.arms current zone =
      if current = pending ∨ current = pending.goal then none else some pending := by
  cases pending with
  | visible | hidden => exact called.elim
  | pendingVisible =>
    obtain rfl := ends_revealing called
    have confirmed := (counts _ (requiredChecks_le settings)).mpr called
    rw [← tuned.required] at confirmed
    cases current <;> simp [Machine.arms, confirmed, Visibility.goal]
  | pendingHidden =>
    obtain rfl := ends_concealing called
    cases current <;> simp [Machine.arms, Visibility.goal]

/-- A sample that leaves a pending state alone does not call for the other one. -/
theorem not_callsFor_of_quiet (tuned : m.Tuned settings) (counts : m.Counts (zones ++ [zone]))
    (isPending : pending.isPending = true) (quiet : m.arms pending zone = none) :
    ¬ CallsFor settings pending.opposite (zones ++ [zone]) := by
  intro called
  rw [arms_of_callsFor tuned counts called] at quiet
  cases pending with
  | visible | hidden => cases isPending
  | pendingVisible | pendingHidden => cases quiet

/-- A step into a pending state has restarted the timer, and the samples call for it. -/
theorem Leads.enters (leads : Leads m now current decided) (tuned : m.Tuned settings)
    (counts : m.Counts zones) (last : [decided.zone] <:+ zones) (moves : decided.next ≠ current)
    (isPending : decided.next.isPending = true) :
    CallsFor settings decided.next zones ∧ m.timer = now ∧ decided.committed = false := by
  cases leads with
  | kept => exact absurd rfl moves
  | startHide restarted | turnToHide restarted => exact ⟨last, restarted, rfl⟩
  | startShow confirmed restarted | turnToShow confirmed restarted =>
    rw [tuned.required] at confirmed
    exact ⟨(counts _ (requiredChecks_le settings)).mp confirmed, restarted, rfl⟩
  | settleShown | settleHidden => cases isPending

/-- A sample enters a pending state only if the samples call for it. -/
theorem callsFor_of_arms (tuned : m.Tuned settings) (counts : m.Counts (zones ++ [zone]))
    (arms : m.arms current zone = some pending) : CallsFor settings pending (zones ++ [zone]) := by
  obtain ⟨moves, isPending⟩ := Machine.arms_turns arms
  have leads := Machine.leads_of_arms 0 arms
  have tuned : ({ m with timer := 0 } : Machine).Tuned settings :=
    ⟨tuned.thresholds, tuned.showDelay, tuned.hideDelay, tuned.required⟩
  have counts : ({ m with timer := 0 } : Machine).Counts (zones ++ [zone]) := counts
  exact (leads.enters tuned counts (List.suffix_append _ _) moves isPending).1

end Reasons

end EdgeReveal
