import EdgeReveal.Proofs.Sampling.Provenance
import EdgeReveal.Proofs.Sampling.Serial

/-!
# Overrides that fall into a tick

An override stored between a tick's load and its exchange makes the sample stale: the exchange
no longer finds what the tick has loaded, and the transition is dropped. The exchange compares
values though, not writes, so a tick that has loaded the very value that overrides store does not
notice them. From the shown panel a sample can only begin to hide it, so this is the one
transition that gets past an override.
-/
namespace EdgeReveal

namespace Machine

variable {m : Machine} {height : Int32}

/-- From the shown panel only a concealing sample moves, and it begins to hide the panel. -/
theorem observe_visible (delayed : m.Delayed) (height : Int32) (now : Nat) :
    (m.observe .visible height now).1 =
      if m.thresholds.classify height = .conceal then ⟨.conceal, .pendingHidden, false⟩
      else ⟨m.thresholds.classify height, .visible, false⟩ := by
  split
  next conceals =>
    have arms : (m.counted height).arms .visible (m.thresholds.classify height) =
        some .pendingHidden := by
      rw [conceals]
      rfl
    rw [observe_of_arms delayed arms, conceals]
  next apart =>
    have quiet : (m.counted height).arms .visible (m.thresholds.classify height) = none := by
      cases zone : m.thresholds.classify height with
      | reveal => simp [Machine.arms]
      | neutral => rfl
      | conceal => exact absurd zone apart
    rw [observe_of_quiet quiet rfl]

end Machine

namespace Race

/-- The tick in progress, or else the last one, got a sample from the concealing band. -/
def Concealed (samples : Nat → Sample) (r : Race) : Prop :=
  ∃ height, (r.reading samples).height = some height ∧
    r.scene.machine.thresholds.classify height = .conceal

/-- The tick, now over, has moved nothing: it was skipped, or superseded, or had nothing to move.
The slot holds what the override stored. -/
structure Dropped (loaded : Visibility) (r : Race) : Prop where
  slot : r.slot = .visible
  unmoved : ∀ decided, r.phase = .done (.observed decided) → decided.next = loaded

/-- The tick in progress has loaded `loaded` and has not come to its exchange yet, and an override
is what the slot holds. -/
structure Stale (loaded : Visibility) (r : Race) : Prop where
  view : r.view = some loaded
  slot : r.slot = .visible

/-- What becomes of the sample when the tick is over. -/
structure Fate (samples : Nat → Sample) (loaded : Visibility) (r : Race) : Prop where
  dropped : Dropped loaded r ↔ ¬ (loaded = .visible ∧ r.Concealed samples)
  unnoticed : loaded = .visible → r.Concealed samples → r.slot = .pendingHidden

variable {settings : Settings} {samples : Nat → Sample} {start r : Race} {origin : Core}
  {front before after rest : List Move} {loaded : Visibility}

theorem Dropped.fate (dropped : Dropped loaded r)
    (apart : loaded = .visible → ¬ r.Concealed samples) : Fate samples loaded r where
  dropped := by
    constructor
    · intro _ unnoticed
      exact apart unnoticed.1 unnoticed.2
    · intro _
      exact dropped
  unnoticed := by
    intro shown concealed
    exact absurd concealed (apart shown)

/-- A sample that has no place on the output is not observed. -/
theorem place_ne_observed {cache : GeometryCache} {pointer : Position} {outcome : Outcome}
    (off : Sampler.place cache pointer = .error outcome) (decided : Step) :
    outcome ≠ .observed decided := by
  unfold Sampler.place at off
  split at off
  · cases off
    simp
  · split at off
    · cases off
      simp
    · cases off

theorem not_concealed_of_skipped (skipped : (r.reading samples).height = none) :
    ¬ r.Concealed samples := by
  rintro ⟨height, placed, -⟩
  rw [skipped] at placed
  cases placed

/-- A tick that has loaded the shown panel begins to hide it exactly if its sample conceals. -/
theorem decided_of_judge {decided : Step} (tuned : origin.machine.Tuned settings)
    (tuned' : r.scene.machine.Tuned settings) (shown : origin.slot = .visible)
    (judged : (r.reading samples).judge origin.machine origin.slot =
      some (decided, r.scene.machine)) :
    (r.Concealed samples → decided = ⟨.conceal, .pendingHidden, false⟩) ∧
      (¬ r.Concealed samples → decided.next = .visible) := by
  obtain ⟨height, placed, observed⟩ := Option.map_eq_some_iff.mp judged
  have step : decided =
      (origin.machine.observe .visible height (r.reading samples).sample.now).1 := by
    rw [← shown, observed]
  rw [Machine.observe_visible tuned.delayed] at step
  have concealed : r.Concealed samples ↔ origin.machine.thresholds.classify height = .conceal := by
    rw [tuned.thresholds, ← tuned'.thresholds]
    constructor
    · rintro ⟨other, placed', conceals⟩
      rw [placed] at placed'
      obtain rfl := Option.some.inj placed'
      exact conceals
    · intro conceals
      exact ⟨height, placed, conceals⟩
  constructor
  · intro conceals
    rw [step, if_pos (concealed.mp conceals)]
  · intro apart
    rw [step, if_neg (fun conceals => apart (concealed.mpr conceals))]

/-- The next action of a stale tick leaves it stale or ends it. -/
theorem Stale.act (stale : Stale loaded r) (underway : Underway samples origin rest r)
    (tuned : origin.machine.Tuned settings) (sound : r.Sound settings samples) :
    (¬ (r.act samples).Idle ∧ Stale loaded (r.act samples)) ∨
      ((r.act samples).Idle ∧ Fate samples loaded (r.act samples)) := by
  have view := stale.view
  have slot := stale.slot
  have acts := acts_act samples r
  generalize r.act samples = r' at acts ⊢
  cases acts with
  | load idle =>
    -- no tick is in progress, so nothing has been loaded
    rcases idle with ready | ⟨outcome, done⟩
    · simp [Race.view, ready] at view
    · simp [Race.view, done] at view
  | announce stage => simp [Race.view, stage] at view
  | aim stage | place stage | judge stage =>
    left
    simp only [Race.view, stage] at view
    exact ⟨by simp [Idle], view, slot⟩
  | pointerLost stage lost =>
    have skipped : (r.reading samples).height = none := by
      simp [Race.reading, Reading.height, lost]
    have dropped : Dropped loaded { r with phase := .done .pointerUnavailable } :=
      ⟨slot, fun decided done => by cases done⟩
    exact .inr ⟨.inr ⟨_, rfl⟩, dropped.fate fun _ => not_concealed_of_skipped skipped⟩
  | @skip current pointer outcome stage off =>
    simp only [Underway, stage] at underway
    have skipped : Reading.height ⟨samples r.tick, r.scene.shared.geometry⟩ = none := by
      simp [Reading.height, underway.2.2, off, Except.toOption]
    have dropped : Dropped loaded
        { r with found := r.scene.shared.geometry, phase := .done outcome } :=
      ⟨slot, fun decided done => absurd (Phase.done.inj done) (place_ne_observed off decided)⟩
    exact .inr ⟨.inr ⟨_, rfl⟩, dropped.fate fun _ => not_concealed_of_skipped skipped⟩
  | @keep decided current stage same =>
    simp only [Race.view, stage, Option.some.injEq] at view
    simp only [Underway, stage] at underway
    obtain ⟨loads, -, judged⟩ := underway
    subst view
    have dropped : Dropped current { r with phase := .done (.observed decided) } := by
      refine ⟨slot, fun observed done => ?_⟩
      obtain rfl := Outcome.observed.inj (Phase.done.inj done)
      exact same
    refine .inr ⟨.inr ⟨_, rfl⟩, dropped.fate fun shown concealed => ?_⟩
    -- a concealing sample would have moved a tick that loaded the shown panel
    have moved := (decided_of_judge tuned sound.tuned (loads.symm.trans shown) judged).1 concealed
    rw [moved, shown] at same
    cases same
  | @yield decided current stage moves taken =>
    simp only [Race.view, stage, Option.some.injEq] at view
    subst view
    have dropped : Dropped current { r with phase := .done (.superseded r.slot) } :=
      ⟨slot, fun observed done => by cases done⟩
    refine .inr ⟨.inr ⟨_, rfl⟩, dropped.fate fun shown => ?_⟩
    exact absurd (slot.trans shown.symm) taken
  | @exchange decided exchanges =>
    simp only [Race.view, exchanges.1, Option.some.injEq] at view
    simp only [Underway, exchanges.1] at underway
    obtain ⟨loads, -, judged⟩ := underway
    have shown : loaded = .visible := view.symm.trans slot
    obtain ⟨conceals, quiet⟩ :=
      decided_of_judge tuned sound.tuned (loads.symm.trans slot) judged
    -- the override has stored what was loaded, so the exchange goes through
    have concealed : r.Concealed samples := by
      by_contra apart
      exact exchanges.2 ((quiet apart).trans slot.symm)
    obtain rfl := conceals concealed
    refine .inr ⟨.inr ⟨_, rfl⟩, ?_, fun _ _ => rfl⟩
    constructor
    · intro dropped
      cases dropped.slot
    · intro apart
      exact absurd ⟨shown, concealed⟩ apart

theorem Stale.step {move : Move} (stale : Stale loaded r) (other : move ≠ .sampler) :
    Stale loaded (r.step samples move) := by
  cases move with
  | sampler => exact absurd rfl other
  | override event => exact ⟨stale.view, rfl⟩
  | cache written | mailbox left => exact ⟨stale.view, stale.slot⟩

/-- From the override on, the tick is stale for as long as it is in progress. -/
theorem InTick.stale {event : String} (sound : start.Sound settings samples)
    (inTick : InTick samples start front (before ++ .override event :: after))
    (view : (start.run samples (front ++ .sampler :: before)).view = some loaded) :
    Stale loaded
      (start.run samples (front ++ .sampler :: (before ++ .override event :: after))) := by
  -- one move at a time from the override on; only the sampler could end the tick
  induction after using List.reverseRecOn with
  | nil =>
    rw [← List.cons_append, ← List.append_assoc, run_append]
    exact ⟨view, rfl⟩
  | append_singleton after move ih =>
    have split : before ++ .override event :: (after ++ [move]) =
        before ++ .override event :: after ++ [move] := by simp
    rw [split] at inTick ⊢
    have longer : front ++ .sampler :: (before ++ .override event :: after ++ [move]) =
        front ++ .sampler :: (before ++ .override event :: after) ++ [move] := by simp
    have busy := inTick.busy _ List.prefix_rfl
    rw [longer, run_append] at busy ⊢
    have stale := ih inTick.shorter
    by_cases other : move = .sampler
    · subst other
      have begun : (start.run samples front).scene.core.machine.Tuned settings :=
        (sound.run front).tuned
      rcases stale.act inTick.shorter.underway begun (sound.run _) with
        ⟨-, later⟩ | ⟨ended, -⟩
      · exact later
      · exact absurd ended busy
    · exact stale.step other

/-- An override that falls between a tick's load and its exchange drops the tick's transition,
with one exception: if the tick has loaded the shown panel and its sample conceals, the override
is not noticed and the tick begins to hide the panel. -/
theorem override_drops_tick (settings : Settings) (samples : Nat → Sample) (scene : Scene)
    (tuned : scene.machine.Tuned settings) (front before after : List Move) (event : String)
    (loaded : Visibility)
    (inTick : InTick samples (opening scene) front (before ++ .override event :: after))
    (view : ((opening scene).run samples (front ++ .sampler :: before)).view = some loaded)
    (final : Race) (last : final = (opening scene).run samples
      (front ++ .sampler :: (before ++ .override event :: after) ++ [.sampler]))
    (ended : final.Idle) :
    (Dropped loaded final ↔ ¬ (loaded = .visible ∧ final.Concealed samples)) ∧
      (loaded = .visible → final.Concealed samples → final.slot = .pendingHidden) := by
  have sound : (opening scene).Sound settings samples :=
    ⟨tuned, fun current decided stage => by cases stage⟩
  have begun : ((opening scene).run samples front).scene.core.machine.Tuned settings :=
    (sound.run front).tuned
  subst last
  rw [run_append] at ended ⊢
  rcases (inTick.stale sound view).act inTick.underway begun (sound.run _) with
    ⟨busy, -⟩ | ⟨-, fate⟩
  · exact absurd ended busy
  · exact ⟨fate.dropped, fate.unnoticed⟩

/-- The second tick is about to hide the panel when the override comes, and does not. -/
theorem override_drops_tick_visit :
    ((opening small).run visit (List.replicate 6 .sampler)).view = some .pendingHidden ∧
      ((opening small).run visit (disturbed 6 4)).Idle ∧
      Dropped .pendingHidden ((opening small).run visit (disturbed 6 4)) := by
  have view : ((opening small).run visit (List.replicate 5 .sampler ++ [.sampler])).view =
      some .pendingHidden := by decide
  have ended : ((opening small).run visit (disturbed 6 4)).Idle := by decide
  have busy : ∀ part ∈ (Move.override "workspacev2" :: List.replicate 3 .sampler).inits,
      ¬ ((opening small).run visit (List.replicate 5 .sampler ++ .sampler :: part)).Idle := by
    decide
  have inTick : InTick visit (opening small) (List.replicate 5 .sampler)
      ([] ++ .override "workspacev2" :: List.replicate 3 .sampler) :=
    ⟨by decide, fun part within => busy part ((List.mem_inits part _).mpr within)⟩
  have fate := override_drops_tick {} visit small (Machine.tuned_create {} 0)
    (List.replicate 5 .sampler) [] (List.replicate 3 .sampler) "workspacev2" .pendingHidden
    inTick view _ rfl ended
  exact ⟨view, ended, fate.1.mpr fun unnoticed => by cases unnoticed.1⟩

/-- The first tick has loaded the shown panel, and the override that comes before its exchange
stores the same: the exchange succeeds and the slot does not hold what the override stored. -/
theorem override_unnoticed :
    ((opening small).run visit [.sampler]).view = some .visible ∧
      ((opening small).run visit (disturbed 1 3)).phase =
        .judged .visible ⟨.conceal, .pendingHidden, false⟩ ∧
      ((opening small).run visit (disturbed 1 4)).phase =
        .done (.observed ⟨.conceal, .pendingHidden, false⟩) ∧
      ((opening small).run visit (disturbed 1 4)).slot ≠ .visible := by decide

end Race

end EdgeReveal
