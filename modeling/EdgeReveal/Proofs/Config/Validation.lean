import EdgeReveal.Settings

/-!
# Validated settings

Each repair makes one of the three conditions hold and leaves the fields of the others alone, so
after all three the settings are well formed, and well-formed settings are not touched again.
-/
namespace EdgeReveal.Settings

theorem interval_withInterval (s : Settings) : 1 ≤ s.withInterval.checkInterval.toNat := by
  unfold withInterval
  split
  next zero => simp
  next positive =>
    rw [← UInt32.toNat_inj] at positive
    exact Nat.one_le_iff_ne_zero.mpr positive

theorem checks_withChecks (s : Settings) : 1 ≤ s.withChecks.showChecks.toNat := by
  unfold withChecks
  split
  next zero => simp
  next positive =>
    rw [← UInt32.toNat_inj] at positive
    exact Nat.one_le_iff_ne_zero.mpr positive

theorem ordered_withThresholds (s : Settings) :
    s.withThresholds.thresholdHidden.toNat < s.withThresholds.thresholdVisible.toNat := by
  unfold withThresholds
  split
  next inverted => simp
  next ordered =>
    rw [UInt32.le_iff_toNat_le] at ordered
    exact Nat.lt_of_not_le ordered

@[simp] theorem checkInterval_withChecks (s : Settings) :
    s.withChecks.checkInterval = s.checkInterval := by
  unfold withChecks
  split <;> rfl

@[simp] theorem checkInterval_withThresholds (s : Settings) :
    s.withThresholds.checkInterval = s.checkInterval := by
  unfold withThresholds
  split <;> rfl

@[simp] theorem showChecks_withThresholds (s : Settings) :
    s.withThresholds.showChecks = s.showChecks := by
  unfold withThresholds
  split <;> rfl

theorem wellFormed_validated (s : Settings) : s.validated.WellFormed where
  interval := by
    simp only [validated, checkInterval_withThresholds, checkInterval_withChecks]
    exact interval_withInterval s
  checks := by
    simp only [validated, showChecks_withThresholds]
    exact checks_withChecks _
  ordered := ordered_withThresholds _

theorem WellFormed.validated_eq {s : Settings} (formed : s.WellFormed) : s.validated = s := by
  have interval : s.withInterval = s := by
    have positive := formed.interval
    refine if_neg fun zero => ?_
    simp [zero] at positive
  have checks : s.withChecks = s := by
    have positive := formed.checks
    refine if_neg fun zero => ?_
    simp [zero] at positive
  have ordered : s.withThresholds = s :=
    if_neg fun inverted => Nat.not_le.mpr formed.ordered (UInt32.le_iff_toNat_le.mp inverted)
  rw [validated, interval, checks, ordered]

theorem validated_validated (s : Settings) : s.validated.validated = s.validated :=
  s.wellFormed_validated.validated_eq

theorem validated_eq_self_iff (s : Settings) : s.validated = s ↔ s.WellFormed := by
  constructor
  · intro same
    rw [← same]
    exact s.wellFormed_validated
  · exact WellFormed.validated_eq

/-- A condition that holds keeps the fields that it is about, and none is about the delays. -/
structure Spares (s repaired : Settings) : Prop where
  checkInterval : 1 ≤ s.checkInterval.toNat → repaired.checkInterval = s.checkInterval
  showChecks : 1 ≤ s.showChecks.toNat → repaired.showChecks = s.showChecks
  thresholdHidden : s.thresholdHidden.toNat < s.thresholdVisible.toNat →
    repaired.thresholdHidden = s.thresholdHidden
  thresholdVisible : s.thresholdHidden.toNat < s.thresholdVisible.toNat →
    repaired.thresholdVisible = s.thresholdVisible
  delayShow : repaired.delayShow = s.delayShow
  delayHide : repaired.delayHide = s.delayHide

/-- The three repairs do not meet: each looks at fields that the others leave alone. -/
theorem validated_fields (s : Settings) :
    s.validated =
      { s with
        checkInterval := if s.checkInterval = 0 then 100 else s.checkInterval
        showChecks := if s.showChecks = 0 then 1 else s.showChecks
        thresholdHidden := if s.thresholdVisible ≤ s.thresholdHidden then 1 else s.thresholdHidden
        thresholdVisible :=
          if s.thresholdVisible ≤ s.thresholdHidden then 50 else s.thresholdVisible } := by
  unfold validated withThresholds withChecks withInterval
  by_cases stopped : s.checkInterval = 0 <;> by_cases unchecked : s.showChecks = 0 <;>
    by_cases inverted : s.thresholdVisible ≤ s.thresholdHidden <;>
    simp [stopped, unchecked, inverted]

theorem spares_validated (s : Settings) : s.Spares s.validated := by
  have ordered (before : s.thresholdHidden.toNat < s.thresholdVisible.toNat) :
      ¬ s.thresholdVisible ≤ s.thresholdHidden := by
    rw [UInt32.le_iff_toNat_le]
    exact Nat.not_le.mpr before
  rw [validated_fields]
  constructor
  case checkInterval =>
    intro positive
    refine if_neg fun zero => ?_
    simp [zero] at positive
  case showChecks =>
    intro positive
    refine if_neg fun zero => ?_
    simp [zero] at positive
  case thresholdHidden => exact fun before => if_neg (ordered before)
  case thresholdVisible => exact fun before => if_neg (ordered before)
  case delayShow => rfl
  case delayHide => rfl

end EdgeReveal.Settings
