import EdgeReveal.Proofs.Machine.History
import EdgeReveal.Proofs.Machine.Reasons
import Mathlib.Data.List.DropRight

/-!
# The run of revealing samples

The count is the length of the run of revealing samples that a history ends with, up to the largest
32-bit word. Only the zones matter: what was found and decided in between, and when, leaves no
trace in it. No setting asks for more than the count can hold, so a show is confirmed by a run
that is long enough even where the count has stopped.
-/
namespace EdgeReveal

/-- Length of the longest suffix that lies all in the revealing band. -/
def revealing (zones : List Zone) : Nat := (zones.rtakeWhile (· = .reveal)).length

section Revealing

variable {zones : List Zone}

@[simp] theorem revealing_nil : revealing [] = 0 := by
  rw [revealing, List.rtakeWhile_nil, List.length_nil]

theorem revealing_concat (zones : List Zone) (zone : Zone) :
    revealing (zones ++ [zone]) = if zone = .reveal then revealing zones + 1 else 0 := by
  rw [revealing, List.rtakeWhile_concat]
  by_cases reveals : zone = .reveal
  · simp [reveals, revealing]
  · simp [reveals]

/-- The runs at the end are those that are no longer than the longest. -/
theorem replicate_suffix_iff {k : Nat} :
    List.replicate k .reveal <:+ zones ↔ k ≤ revealing zones := by
  -- from the last sample on, as the run is counted
  induction zones using List.reverseRecOn generalizing k with
  | nil => simp
  | append_singleton zones zone ih =>
    cases k with
    | zero => simp
    | succ k =>
      rw [List.replicate_succ', List.suffix_concat_iff, revealing_concat]
      constructor
      · rintro (none | ⟨run, same, suffix⟩)
        · simp at none
        · obtain ⟨rfl, last⟩ := List.append_inj' same rfl
          rw [if_pos (List.singleton_inj.mp last).symm]
          exact Nat.succ_le_succ (ih.mp suffix)
      · intro long
        split at long
        next reveals =>
          subst reveals
          exact .inr ⟨_, rfl, ih.mpr (Nat.le_of_succ_le_succ long)⟩
        next => exact absurd long (Nat.not_succ_le_zero k)

/-- Samples call for a show if the run at their end is as long as the settings ask for. -/
theorem callsFor_pendingVisible_iff {settings : Settings} :
    CallsFor settings .pendingVisible zones ↔ settings.requiredChecks ≤ revealing zones :=
  replicate_suffix_iff

end Revealing

namespace Machine

variable {settings : Settings} {m : Machine} {zones : List Zone}

theorem Counts.feed (tuned : m.Tuned settings) (counts : m.Counts zones)
    (history : List Observation) :
    (m.feed history).Counts (zones ++ history.map (Observation.zone settings)) := by
  induction history generalizing m zones with
  | nil =>
    rw [List.map_nil, List.append_nil]
    exact counts
  | cons o rest ih =>
    have seen := counts.observe o.current o.height o.now
    rw [tuned.thresholds] at seen
    have later := ih (tuned.observe o.current o.height o.now) seen
    rw [List.append_assoc] at later
    exact later

theorem counts_feed (settings : Settings) (origin : Nat) (history : List Observation) :
    ((create settings origin).feed history).Counts
      (history.map (Observation.zone settings)) := by
  have fed := (counts_create settings origin).feed (tuned_create settings origin) history
  exact fed

theorem count_observe_le (m : Machine) (current : Visibility) (height : Int32) (now : Nat) :
    (m.observe current height now).2.count ≤ countLimit := by
  rw [observe_count, counted]
  cases m.thresholds.classify height with
  | reveal => exact Nat.min_le_right _ _
  | neutral | conceal => exact Nat.zero_le _

theorem count_feed_le (within : m.count ≤ countLimit) (history : List Observation) :
    (m.feed history).count ≤ countLimit := by
  induction history generalizing m with
  | nil => exact within
  | cons o rest ih =>
    apply ih
    exact count_observe_le m o.current o.height o.now

/-- What a count says of runs up to its limit says all there is to know of it. -/
theorem Counts.count_eq (counts : m.Counts zones) (within : m.count ≤ countLimit) :
    m.count = min countLimit (revealing zones) := by
  have counted := (counts m.count within).mp (Nat.le_refl _)
  rw [replicate_suffix_iff] at counted
  apply Nat.le_antisymm
  · exact Nat.le_min.mpr ⟨within, counted⟩
  · apply (counts _ (Nat.min_le_left _ _)).mpr
    exact replicate_suffix_iff.mpr (Nat.min_le_right _ _)

theorem count_feed (settings : Settings) (origin : Nat) (history : List Observation) :
    ((create settings origin).feed history).count =
      min countLimit (revealing (history.map (Observation.zone settings))) :=
  (counts_feed settings origin history).count_eq (count_feed_le (Nat.zero_le _) history)

theorem arms_pendingVisible_iff {current : Visibility} {zone : Zone} :
    m.arms current zone = some .pendingVisible ↔
      (current = .hidden ∨ current = .pendingHidden) ∧ zone = .reveal ∧ m.required ≤ m.count := by
  cases zone with
  | reveal =>
    by_cases confirmed : m.required ≤ m.count
    · cases current <;> simp [arms, confirmed]
    · simp [arms, confirmed]
  | neutral => simp [arms]
  | conceal => cases current <;> simp [arms]

/-- A sample enters the pending show exactly if the samples call for it and the panel is hidden or
about to be. -/
theorem enters_pendingVisible_iff (tuned : m.Tuned settings) (counts : m.Counts zones)
    (o : Observation) :
    (m.observe o.current o.height o.now).1.next = .pendingVisible ∧
        o.current ≠ .pendingVisible ↔
      (o.current = .hidden ∨ o.current = .pendingHidden) ∧
        CallsFor settings .pendingVisible (zones ++ [o.zone settings]) := by
  have zone : m.thresholds.classify o.height = o.zone settings := by
    rw [tuned.thresholds, Observation.zone]
  have counted : (m.counted o.height).Counts (zones ++ [o.zone settings]) := by
    rw [← zone]
    exact counts.tally _
  -- no setting asks for more than the count can tell
  have confirmed := counted _ (requiredChecks_le settings)
  rw [observe_enters_iff tuned.delayed rfl, arms_pendingVisible_iff, zone,
    (tuned.counted o.height).required, confirmed]
  constructor
  · rintro ⟨below, -, called⟩
    exact ⟨below, called⟩
  · -- one check at least is asked for, so the sample itself is revealing
    rintro ⟨below, called⟩
    exact ⟨below, ends_revealing called, called⟩

/-- The count is the length of the run of revealing samples that the history ends with. A sample
enters the pending show exactly if the panel is hidden or about to be and that run, the sample
included, is as long as the settings ask for, from no checks at all up to as many as the count can
hold. Another history of the same heights gives the same count, whatever was found in between and
when, and whenever the machine was created. -/
theorem count_eq_revealing (settings : Settings) (origin : Nat) (history : List Observation)
    (o : Observation) (m : Machine) (here : m = (create settings origin).feed history) :
    m.count = min countLimit (revealing (history.map (Observation.zone settings))) ∧
    ((m.observe o.current o.height o.now).1.next = .pendingVisible ∧
        o.current ≠ .pendingVisible ↔
      (o.current = .hidden ∨ o.current = .pendingHidden) ∧
        max 1 settings.showChecks.toNat ≤
          revealing ((history ++ [o]).map (Observation.zone settings))) ∧
    ∀ (elsewhere : Nat) (other : List Observation),
      other.map Observation.height = history.map Observation.height →
        ((create settings elsewhere).feed other).count = m.count := by
  subst here
  refine ⟨count_feed settings origin history, ?_, ?_⟩
  · rw [enters_pendingVisible_iff (tuned_feed settings origin history)
      (counts_feed settings origin history) o, callsFor_pendingVisible_iff, List.map_append]
    exact Iff.rfl
  · intro elsewhere other same
    -- the zones are those of the heights
    have zones : other.map (Observation.zone settings) =
        history.map (Observation.zone settings) := by
      have classified := congrArg (List.map settings.thresholds.classify) same
      rw [List.map_map, List.map_map] at classified
      exact classified
    rw [count_feed, count_feed, zones]

/-- Three revealing samples after a neutral one, found while shown, while a show is pending and
while a hide is pending: with three checks the last of them enters the pending show, although the
clock goes back and an override has come between. -/
theorem count_eq_revealing_overridden :
    let settings : Settings := { showChecks := 3 }
    let history : List Observation :=
      [⟨.hidden, 20, 900⟩, ⟨.visible, 0, 800⟩, ⟨.pendingVisible, 1, 500⟩]
    let m := (create settings 1000).feed history
    m.count = 2 ∧ (m.observe .pendingHidden 0 100).1.next = .pendingVisible ∧
      ((create settings 0).feed [⟨.hidden, 20, 0⟩, ⟨.hidden, 0, 0⟩, ⟨.hidden, 1, 0⟩]).count =
        m.count := by
  obtain ⟨count, shows, alike⟩ := count_eq_revealing { showChecks := 3 } 1000
    [⟨.hidden, 20, 900⟩, ⟨.visible, 0, 800⟩, ⟨.pendingVisible, 1, 500⟩]
    ⟨.pendingHidden, 0, 100⟩ _ rfl
  refine ⟨count.trans (by decide), (shows.mpr ⟨.inr rfl, by decide⟩).1, ?_⟩
  exact alike 0 [⟨.hidden, 20, 0⟩, ⟨.hidden, 0, 0⟩, ⟨.hidden, 1, 0⟩] rfl

end Machine

end EdgeReveal
