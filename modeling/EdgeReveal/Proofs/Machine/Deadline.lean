import EdgeReveal.Proofs.Machine.Course
import Mathlib.Data.List.Infix

/-!
# Pending states and their deadlines

A pending state has its deadline from the sample that entered it, and no later sample moves it.
The first sample that either calls for the other pending state or comes at or after the deadline
decides, and if it does both, calling off wins. None of this depends on the order of the times.
-/
namespace EdgeReveal

namespace Course

variable {settings : Settings} {c : Course} {s : Sighting} {zones : List Zone}
  {pending : Visibility} {entered : Nat} {later : List Sighting}

/-- The sample confirms a show: it reveals, and the count has come to what the settings ask for. -/
def Confirms (settings : Settings) (c : Course) (s : Sighting) : Prop :=
  settings.zone s = .reveal ∧ settings.requiredChecks ≤ (c.step s).machine.count

instance (settings : Settings) (c : Course) (s : Sighting) : Decidable (Confirms settings c s) :=
  inferInstanceAs (Decidable (_ ∧ _))

/-- What confirms a show is a run of revealing samples that is long enough. -/
theorem confirms_iff (shown : Shown settings zones c) :
    Confirms settings c s ↔ CallsFor settings .pendingVisible (zones ++ [settings.zone s]) := by
  have counts := (shown.step s).counts _ (requiredChecks_le settings)
  constructor
  · intro confirms
    exact counts.mp confirms.2
  · intro called
    exact ⟨ends_revealing called, counts.mpr called⟩

theorem conceals_iff : settings.zone s = .conceal ↔
    CallsFor settings .pendingHidden (zones ++ [settings.zone s]) := by
  constructor
  · intro conceals
    rw [conceals]
    exact List.suffix_append _ _
  · intro called
    exact ends_concealing called

/-- The pending state was entered at `entered` and still holds. -/
structure Waits (pending : Visibility) (entered : Nat) (c : Course) : Prop where
  state : c.state = pending
  timer : c.machine.timer = entered

/-- Nothing in `later` decides over the pending state: no sample calls for the other one, and
none comes at or after the deadline. -/
def Undecided (settings : Settings) (pending : Visibility) (entered : Nat) (zones : List Zone)
    (later : List Sighting) : Prop :=
  ∀ part next, part ++ [next] <+: later →
    ¬ CallsFor settings pending.opposite (zones ++ part.map settings.zone ++ [settings.zone next]) ∧
      next.now < entered + settings.wait pending

theorem Undecided.shorter (undecided : Undecided settings pending entered zones (later ++ [s])) :
    Undecided settings pending entered zones later := by
  intro part next within
  exact undecided part next (within.trans (List.prefix_append _ _))

/-- As long as nothing decides, the state waits, and its deadline stays the same. -/
theorem Waits.run (shown : Shown settings zones c) (isPending : pending.isPending = true)
    (waits : Waits pending entered c)
    (undecided : Undecided settings pending entered zones later) :
    Waits pending entered (c.run later) := by
  induction later using List.reverseRecOn with
  | nil => exact waits
  | append_singleton later s ih =>
    have before := ih undecided.shorter
    obtain ⟨uncalled, early⟩ := undecided later s List.prefix_rfl
    rw [← before.state] at isPending uncalled early
    obtain ⟨verdict, timer⟩ := verdict_of_uncalled (shown.run later) isPending uncalled
    -- the timer still says when the state was entered
    have running : ¬ settings.wait (c.run later).state ≤
        s.now - (c.run later).machine.timer := by
      rw [before.timer]
      have positive := wait_pos settings isPending
      omega
    rw [if_neg running] at verdict
    rw [run_append, run_cons, run_nil]
    refine ⟨?_, timer.trans before.timer⟩
    rw [state_step, verdict]
    exact before.state

/-- What a sample makes of a pending state: calling off comes before the deadline. -/
theorem Waits.verdict (shown : Shown settings zones c) (isPending : pending.isPending = true)
    (waits : Waits pending entered c) (s : Sighting) :
    (CallsFor settings pending.opposite (zones ++ [settings.zone s]) →
      c.verdict s = ⟨settings.zone s, pending.opposite, false⟩ ∧
        (c.step s).machine.timer = s.now) ∧
    (¬ CallsFor settings pending.opposite (zones ++ [settings.zone s]) →
      c.verdict s =
        if entered + settings.wait pending ≤ s.now then ⟨settings.zone s, pending.goal, true⟩
        else ⟨settings.zone s, pending, false⟩) := by
  obtain ⟨rfl, rfl⟩ := waits
  constructor
  · intro called
    -- a pending state is no goal
    have short : c.state ≠ c.state.opposite.goal := by
      intro there
      rw [there, Visibility.isPending_goal] at isPending
      cases isPending
    exact verdict_of_called shown called (Visibility.ne_opposite _) short
  · intro uncalled
    have positive := wait_pos settings isPending
    rw [(verdict_of_uncalled shown isPending uncalled).1]
    -- a clock behind the timer leaves a difference of zero, which is less than any delay
    have deadline : settings.wait c.state ≤ s.now - c.machine.timer ↔
        c.machine.timer + settings.wait c.state ≤ s.now := by omega
    simp only [deadline]

variable {origin : Nat} {start : Visibility} {before : List Sighting} {entry : Sighting}

/-- A course that has just entered a pending state waits, and goes on until something decides. -/
theorem waits_of_entry (isPending : pending.isPending = true)
    (apart : ((begin settings origin start).run before).state ≠ pending)
    (enters : ((begin settings origin start).run (before ++ [entry])).state = pending)
    (undecided : Undecided settings pending entry.now ((before ++ [entry]).map settings.zone)
      later) :
    Waits pending entry.now ((begin settings origin start).run (before ++ entry :: later)) := by
  have shown := shown_run settings origin start before
  have entered : Waits pending entry.now
      ((begin settings origin start).run (before ++ [entry])) := by
    refine ⟨enters, ?_⟩
    rw [run_append, run_cons, run_nil] at enters ⊢
    refine timer_of_entering shown ?_ ?_
    · rw [enters]
      exact isPending
    · rw [enters]
      exact apart.symm
  have waits := entered.run (shown_run settings origin start _) isPending undecided
  rw [← run_append, List.append_assoc] at waits
  exact waits

/-- Once a step has entered a pending state, the state holds until the first sample that decides.
A pending hide is decided by a confirmed show, which turns it round even at or after the deadline,
and else at the deadline, where it settles; neither an unconfirmed show nor another concealing
sample makes a difference. A pending show is decided by a concealing sample or at the deadline. -/
theorem pending_decided (settings : Settings) (origin : Nat) (start : Visibility)
    (before : List Sighting) (entry : Sighting) (later : List Sighting) (s : Sighting)
    (c : Course) (here : c = (begin settings origin start).run (before ++ entry :: later)) :
    (((begin settings origin start).run before).state ≠ .pendingHidden →
      ((begin settings origin start).run (before ++ [entry])).state = .pendingHidden →
      (∀ part next, part ++ [next] <+: later →
        ¬ Confirms settings ((begin settings origin start).run (before ++ entry :: part)) next ∧
          next.now < entry.now + milliseconds settings.hideDelayMillis) →
      c.state = .pendingHidden ∧
        (Confirms settings c s ↔ List.replicate settings.requiredChecks .reveal <:+
          (before ++ entry :: later ++ [s]).map settings.zone) ∧
        (Confirms settings c s → c.verdict s = ⟨.reveal, .pendingVisible, false⟩ ∧
          (c.step s).machine.timer = s.now) ∧
        (¬ Confirms settings c s → c.verdict s =
          if entry.now + milliseconds settings.hideDelayMillis ≤ s.now then
            ⟨settings.zone s, .hidden, true⟩
          else ⟨settings.zone s, .pendingHidden, false⟩)) ∧
    (((begin settings origin start).run before).state ≠ .pendingVisible →
      ((begin settings origin start).run (before ++ [entry])).state = .pendingVisible →
      (∀ part next, part ++ [next] <+: later → settings.zone next ≠ .conceal ∧
        next.now < entry.now + milliseconds settings.showDelayMillis) →
      c.state = .pendingVisible ∧
        (settings.zone s = .conceal → c.verdict s = ⟨.conceal, .pendingHidden, false⟩ ∧
          (c.step s).machine.timer = s.now) ∧
        (settings.zone s ≠ .conceal → c.verdict s =
          if entry.now + milliseconds settings.showDelayMillis ≤ s.now then
            ⟨settings.zone s, .visible, true⟩
          else ⟨settings.zone s, .pendingVisible, false⟩)) := by
  have shown := shown_run settings origin start
  subst here
  constructor
  · intro apart enters undecided
    have quiet : Undecided settings .pendingHidden entry.now
        ((before ++ [entry]).map settings.zone) later := by
      intro part next within
      obtain ⟨unconfirmed, early⟩ := undecided part next within
      refine ⟨fun called => unconfirmed ((confirms_iff (shown _)).mpr ?_), early⟩
      rw [← List.map_append, List.append_assoc] at called
      exact called
    have waits := waits_of_entry rfl apart enters quiet
    have confirms := confirms_iff (shown (before ++ entry :: later)) (s := s)
    obtain ⟨turns, waits_or_settles⟩ := waits.verdict (shown _) rfl s
    refine ⟨waits.state, ?_, ?_, ?_⟩
    · have zones : (before ++ entry :: later ++ [s]).map settings.zone =
          (before ++ entry :: later).map settings.zone ++ [settings.zone s] := List.map_append
      rw [confirms, zones]
      exact Iff.rfl
    · intro confirmed
      rw [← confirmed.1]
      exact turns (confirms.mp confirmed)
    · intro unconfirmed
      exact waits_or_settles fun called => unconfirmed (confirms.mpr called)
  · intro apart enters undecided
    have quiet : Undecided settings .pendingVisible entry.now
        ((before ++ [entry]).map settings.zone) later := by
      intro part next within
      obtain ⟨unconcealed, early⟩ := undecided part next within
      exact ⟨fun called => unconcealed (conceals_iff.mpr called), early⟩
    have waits := waits_of_entry rfl apart enters quiet
    obtain ⟨turns, waits_or_settles⟩ := waits.verdict (shown _) rfl s
    refine ⟨waits.state, ?_, ?_⟩
    · intro conceals
      rw [← conceals]
      exact turns (conceals_iff.mp conceals)
    · intro unconcealed
      exact waits_or_settles fun called => unconcealed (conceals_iff.mpr called)

/-- With the standard settings a hide is called off at its very deadline, after a show that was
not confirmed and another concealing sample; and a show is called off at its deadline. -/
theorem pending_decided_lastMoment :
    ((begin {} 0 .visible).run [⟨80, 0⟩, ⟨0, milliseconds 1000⟩, ⟨80, milliseconds 2000⟩,
        ⟨0, milliseconds 2900⟩]).verdict ⟨0, milliseconds 3000⟩ =
      ⟨.reveal, .pendingVisible, false⟩ ∧
    ((begin {} 0 .hidden).run [⟨0, 0⟩, ⟨0, milliseconds 100⟩, ⟨20, milliseconds 105⟩]).verdict
        ⟨80, milliseconds 110⟩ = ⟨.conceal, .pendingHidden, false⟩ := by
  have unconfirmed : ∀ run ∈ ([⟨0, milliseconds 1000⟩, ⟨80, milliseconds 2000⟩,
      ⟨0, milliseconds 2900⟩] : List Sighting).inits, ∀ part ∈ run.inits, ∀ next ∈ run,
      part ++ [next] = run →
      ¬ Confirms {} ((begin {} 0 .visible).run ([] ++ ⟨80, 0⟩ :: part)) next ∧
        next.now < 0 + milliseconds ({} : Settings).hideDelayMillis := by decide
  have hides := (pending_decided {} 0 .visible [] ⟨80, 0⟩
    [⟨0, milliseconds 1000⟩, ⟨80, milliseconds 2000⟩, ⟨0, milliseconds 2900⟩]
    ⟨0, milliseconds 3000⟩ _ rfl).1 (by decide) (by decide)
    (fun part next within => unconfirmed _ ((List.mem_inits _ _).mpr within) part
      ((List.mem_inits _ _).mpr (List.prefix_append _ _)) next (by simp) rfl)
  have unconcealed : ∀ next ∈ ([⟨20, milliseconds 105⟩] : List Sighting),
      ({} : Settings).zone next ≠ .conceal ∧
        next.now < milliseconds 100 + milliseconds ({} : Settings).showDelayMillis := by decide
  have shows := (pending_decided {} 0 .hidden [⟨0, 0⟩] ⟨0, milliseconds 100⟩
    [⟨20, milliseconds 105⟩] ⟨80, milliseconds 110⟩ _ rfl).2 (by decide) (by decide)
    (fun part next within => unconcealed next (within.subset (by simp)))
  exact ⟨(hides.2.2.1 (by decide)).1, (shows.2.1 (by decide)).1⟩

end Course

end EdgeReveal
