import EdgeReveal.Proofs.Config.Validation
import EdgeReveal.Proofs.Controller.Requests

/-!
# What a controller runs on

A controller validates the settings that it is started with, once, and hands the result to all that
depends on them: what it reports, how long its sampler sleeps, how many samples confirm a show and
where the zones lie. The zones do not overlap, whatever the thresholds are.
-/
namespace EdgeReveal

/-- Every height that reveals is less than every other one, and every neutral one is less than every
one that conceals. -/
structure Thresholds.Layered (t : Thresholds) : Prop where
  reveal : ∀ a b : Int32, t.classify a = .reveal → t.classify b ≠ .reveal → a < b
  neutral : ∀ a b : Int32, t.classify a = .neutral → t.classify b = .conceal → a < b

namespace Thresholds

variable {t : Thresholds} {height : Int32}

theorem classify_eq_reveal_iff : t.classify height = .reveal ↔ height.toInt ≤ t.hidden.toNat := by
  unfold classify
  split
  next reveals => exact iff_of_true rfl reveals
  next above =>
    refine iff_of_false ?_ above
    split <;> simp

theorem classify_eq_conceal_iff : t.classify height = .conceal ↔
    (t.hidden.toNat : Int) < height.toInt ∧ (t.visible.toNat : Int) < height.toInt := by
  unfold classify
  split
  next reveals => simp [Int.not_lt.mpr reveals]
  next above =>
    split
    next conceals => simp [conceals, Int.not_le.mp above]
    next neutral => simp [neutral]

theorem layered (t : Thresholds) : t.Layered where
  reveal a b reveals other := by
    rw [classify_eq_reveal_iff] at reveals
    rw [Ne, classify_eq_reveal_iff, Int.not_le] at other
    exact Int32.lt_iff_toInt_lt.mpr (Int.lt_of_le_of_lt reveals other)
  neutral a b neutral conceals := by
    -- a neutral height neither reveals nor conceals, so it is within the lower threshold
    have above : ¬ t.classify a = .reveal := by simp [neutral]
    have within : ¬ t.classify a = .conceal := by simp [neutral]
    rw [classify_eq_reveal_iff] at above
    rw [classify_eq_conceal_iff] at within conceals
    rw [Int32.lt_iff_toInt_lt]
    omega

end Thresholds

namespace Settings.WellFormed

variable {s : Settings}

/-- Neither lower bound takes effect. -/
theorem intervalMillis_eq (formed : s.WellFormed) : s.intervalMillis = s.checkInterval.toNat :=
  Nat.max_eq_left formed.interval

theorem requiredChecks_eq (formed : s.WellFormed) : s.requiredChecks = s.showChecks.toNat :=
  Nat.max_eq_right formed.checks

end Settings.WellFormed

/-- Validated settings are well formed, differ from what was given only in fields of a condition
that was violated, and stay as they are when they are validated again. A controller that is started
runs on them in all its parts. -/
theorem Controller.runs_on_validated (settings : Settings) :
    let tuned := settings.validated
    tuned.WellFormed ∧ settings.Spares tuned ∧
    (tuned = settings ↔ settings.WellFormed) ∧ tuned.validated = tuned ∧
    ∀ (η : Type) (now : Nat) (handler : η) (table : Subscriptions η), ∃ controller machine,
      (start settings now true handler table).1 = .ok controller ∧
      controller.settings = tuned ∧
      controller.interval = tuned.checkInterval.toNat ∧
      controller.sampler = some machine ∧
      machine.required = tuned.showChecks.toNat ∧
      machine.thresholds = ⟨tuned.thresholdHidden, tuned.thresholdVisible⟩ ∧
      machine.thresholds.Layered := by
  intro tuned
  have formed : tuned.WellFormed := settings.wellFormed_validated
  refine ⟨formed, settings.spares_validated, settings.validated_eq_self_iff,
    settings.validated_validated, fun η now handler table => ?_⟩
  rw [start_spawned]
  exact ⟨_, _, rfl, rfl, formed.intervalMillis_eq, rfl, formed.requiredChecks_eq, rfl,
    Thresholds.layered _⟩

end EdgeReveal
