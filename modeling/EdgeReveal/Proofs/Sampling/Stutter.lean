import EdgeReveal.Proofs.Sampling.Provenance
import EdgeReveal.Proofs.Sampling.Skipped
import Mathlib.Data.List.Infix

/-!
# Runs without skipped samples

Skipped ticks are stutter: with all their actions deleted the others run as before, at every
moment and not only between ticks. The deleted run numbers its ticks anew, so the two runs are
related by an alignment: they stand at the same action of the same tick, or the full one is in a
tick that will be skipped, and then the other one waits between two ticks.
-/
namespace EdgeReveal

namespace Race

/-- The moves without the actions of skipped ticks; `future` is how the run goes on. -/
def thin (samples : Nat → Sample) (future : List Move) (r : Race) : List Move → List Move
  | [] => []
  | move :: rest =>
    let others := thin samples future (r.step samples move) rest
    if move = .sampler ∧ (r.act samples).skips samples (rest ++ future) then others
    else move :: others

/-- The numbers of the ticks that begin among the moves and are not skipped. -/
def kept (samples : Nat → Sample) (r : Race) : List Move → List Nat
  | [] => []
  | move :: rest =>
    let later := kept samples (r.step samples move) rest
    if move = .sampler ∧ r.Idle ∧ (r.act samples).skips samples rest = false then r.next :: later
    else later

/-- The samples of the ticks that are not skipped, numbered anew. -/
def fewer (samples : Nat → Sample) (r : Race) (moves : List Move) (n : Nat) : Sample :=
  samples ((r.kept samples moves).getD n 0)

/-- What the ticks that end among the moves come to, in order. -/
def outcomes (samples : Nat → Sample) (r : Race) (moves : List Move) : List Outcome :=
  r.gather samples
    (fun r move => if move = .sampler then (r.act samples).outcome?.toList else []) moves

variable {samples renumbered : Nat → Sample} {r full thinned : Race} {move : Move}
  {rest future moves : List Move}

/-! ### The two runs side by side -/

/-- How the run without skipped ticks stands to the full one, which has `rest` before it. -/
inductive Aligned (samples renumbered : Nat → Sample) (rest : List Move) (full thinned : Race) :
    Prop
  | waiting (scene : thinned.scene = full.scene)
      (apart : full.Idle ∨ full.skips samples rest = true) (idle : thinned.Idle)
      (ahead : ∀ k n, (full.kept samples rest)[k]? = some n →
        renumbered (thinned.next + k) = samples n)
  | together (scene : thinned.scene = full.scene) (busy : ¬ full.Idle)
      (remains : full.skips samples rest = false) (phase : thinned.phase = full.phase)
      (sample : renumbered thinned.tick = samples full.tick)
      (ahead : ∀ k n, (full.kept samples rest)[k]? = some n →
        renumbered (thinned.tick + 1 + k) = samples n)

theorem Aligned.scene_eq (aligned : Aligned samples renumbered rest full thinned) :
    thinned.scene = full.scene := by
  cases aligned with
  | waiting scene | together scene => exact scene

theorem thin_cons (samples : Nat → Sample) (future : List Move) (r : Race) (move : Move)
    (rest : List Move) :
    r.thin samples future (move :: rest) =
      r.thin samples (rest ++ future) [move] ++
        (r.step samples move).thin samples future rest := by
  simp only [thin, List.nil_append]
  split <;> rfl

theorem thin_other (other : move ≠ .sampler) : r.thin samples future [move] = [move] := by
  simp [thin, other]

theorem kept_cons_of_not {later : List Nat}
    (same : (r.step samples move).kept samples rest = later)
    (continues : ¬ (move = .sampler ∧ r.Idle ∧ (r.act samples).skips samples rest = false)) :
    r.kept samples (move :: rest) = later := by
  simp only [kept]
  rw [if_neg continues, same]

/-- Two ticks at the same action, with the same sample and the same scene, go on alike. -/
theorem act_alike (busy : ¬ full.Idle) (phase : thinned.phase = full.phase)
    (scene : thinned.scene = full.scene) (sample : renumbered thinned.tick = samples full.tick) :
    (thinned.act renumbered).phase = (full.act samples).phase ∧
      (thinned.act renumbered).scene = (full.act samples).scene ∧
      (thinned.act renumbered).tick = thinned.tick ∧ (full.act samples).tick = full.tick := by
  obtain ⟨fullScene, fullFound, fullTick, stage⟩ := full
  obtain ⟨thinScene, thinFound, thinTick, thinStage⟩ := thinned
  obtain rfl : thinStage = stage := phase
  obtain rfl : thinScene = fullScene := scene
  have sample : renumbered thinTick = samples fullTick := sample
  cases thinStage with
  | ready => exact absurd (.inl rfl) busy
  | done outcome => exact absurd (.inr ⟨outcome, rfl⟩) busy
  | loaded | aimed | placed | judged | announcing =>
    simp only [act, upcoming, sample, and_self]

theorem Aligned.other (aligned : Aligned samples renumbered (move :: rest) full thinned)
    (other : move ≠ .sampler) :
    Aligned samples renumbered rest (full.step samples move) (thinned.step renumbered move) := by
  obtain ⟨phase, tick, -, -⟩ := step_frame samples full other
  obtain ⟨phase', tick', -, -⟩ := step_frame renumbered thinned other
  have scene : (thinned.step renumbered move).scene = (full.step samples move).scene := by
    have same := aligned.scene_eq
    cases move with
    | sampler => exact absurd rfl other
    | override event | cache written | mailbox left => simp only [step, same]
  have later : full.kept samples (move :: rest) = (full.step samples move).kept samples rest :=
    kept_cons_of_not rfl fun acts => other acts.1
  cases aligned with
  | waiting _ apart idle ahead =>
    refine .waiting scene ?_ ((idle_step other).mpr idle) ?_
    · rw [idle_step other, ← skips_cons_of_other other]
      exact apart
    · rw [← later, next, upcoming, phase', tick']
      exact ahead
  | together _ busy remains same sample ahead =>
    refine .together scene ?_ ?_ ?_ ?_ ?_
    · rwa [idle_step other]
    · rwa [← skips_cons_of_other other]
    · rw [phase, phase', same]
    · rw [tick, tick', sample]
    · rw [← later, tick']
      exact ahead

/-- From between two ticks the sampler begins one, which is skipped or not. -/
theorem Aligned.begin (scene : thinned.scene = full.scene) (begun : full.Idle)
    (idle : thinned.Idle)
    (ahead : ∀ k n, (full.kept samples (.sampler :: rest))[k]? = some n →
      renumbered (thinned.next + k) = samples n) :
    Aligned samples renumbered rest (full.act samples)
      (thinned.run renumbered (full.thin samples rest [.sampler])) := by
  have busy : ¬ (full.act samples).Idle := not_idle_load begun
  have loads : (full.act samples).scene = full.scene := by rw [act_of_idle begun]
  cases skips : (full.act samples).skips samples rest with
  | true =>
    have gone : full.thin samples rest [.sampler] = [] := by simp [thin, skips]
    have later : full.kept samples (.sampler :: rest) = (full.act samples).kept samples rest :=
      kept_cons_of_not rfl (by simp [skips])
    rw [gone]
    rw [later] at ahead
    exact .waiting (scene.trans loads.symm) (.inr skips) idle ahead
  | false =>
    have stays : full.thin samples rest [.sampler] = [.sampler] := by simp [thin, skips]
    have later : full.kept samples (.sampler :: rest) =
        full.next :: (full.act samples).kept samples rest := by
      simp only [kept]
      rw [if_pos ⟨trivial, begun, skips⟩]
      rfl
    rw [stays, run_cons, run_nil]
    rw [later] at ahead
    change Aligned samples renumbered rest (full.act samples) (thinned.act renumbered)
    have slot : thinned.slot = full.slot := by rw [Race.slot, Race.slot, scene]
    refine .together ?_ busy skips ?_ ?_ ?_
    · rw [act_of_idle idle, act_of_idle begun]
      exact scene
    · rw [act_of_idle idle, act_of_idle begun, slot]
    · rw [act_of_idle idle, act_of_idle begun]
      exact ahead 0 full.next rfl
    · intro k n kept
      rw [act_of_idle idle]
      have numbered := ahead (k + 1) n kept
      rwa [Nat.add_comm k 1, ← Nat.add_assoc] at numbered

/-- An action of a tick that remains is performed in both runs. -/
theorem Aligned.proceed (scene : thinned.scene = full.scene) (busy : ¬ full.Idle)
    (remains : full.skips samples (.sampler :: rest) = false)
    (phase : thinned.phase = full.phase) (sample : renumbered thinned.tick = samples full.tick)
    (ahead : ∀ k n, (full.kept samples (.sampler :: rest))[k]? = some n →
      renumbered (thinned.tick + 1 + k) = samples n) :
    Aligned samples renumbered rest (full.act samples) (thinned.act renumbered) := by
  obtain ⟨phases, scenes, ticks, tick⟩ := act_alike busy phase scene sample
  have later : full.kept samples (.sampler :: rest) = (full.act samples).kept samples rest :=
    kept_cons_of_not rfl fun begins => busy begins.2.1
  have remains' : (full.act samples).skips samples rest = false := by
    rw [skips_cons_of_busy busy] at remains
    exact remains
  rw [later] at ahead
  by_cases ended : (full.act samples).Idle
  · -- the tick is over in both runs, and the next one has the next number
    obtain ⟨outcome, done⟩ := ended.resolve_left (act_not_ready samples full)
    have done' := phases.trans done
    refine .waiting scenes (.inl ended) (.inr ⟨outcome, done'⟩) ?_
    rw [next_of_done done', ticks]
    exact ahead
  · refine .together scenes ended remains' phases ?_ ?_
    · rw [ticks, tick]
      exact sample
    · rw [ticks]
      exact ahead

theorem outcomes_singleton (samples : Nat → Sample) (r : Race) :
    r.outcomes samples [.sampler] = (r.act samples).outcome?.toList := by
  rw [outcomes, gather, gather, List.append_nil, if_pos rfl]

theorem outcomes_other (other : move ≠ .sampler) : r.outcomes samples [move] = [] := by
  rw [outcomes, gather, gather, List.append_nil, if_neg other]

theorem outcomes_append (samples : Nat → Sample) (r : Race) (front back : List Move) :
    r.outcomes samples (front ++ back) =
      r.outcomes samples front ++ (r.run samples front).outcomes samples back := by
  induction front generalizing r with
  | nil => rfl
  | cons move front ih =>
    unfold outcomes at ih ⊢
    rw [List.cons_append, gather, gather, ih, List.append_assoc, run_cons]

/-- One move of the full run, and what is left of it. -/
theorem Aligned.step (aligned : Aligned samples renumbered (move :: rest) full thinned) :
    Aligned samples renumbered rest (full.step samples move)
        (thinned.run renumbered (full.thin samples rest [move])) ∧
      thinned.outcomes renumbered (full.thin samples rest [move]) =
        (full.outcomes samples [move]).filter (!·.skipped) := by
  by_cases other : move = .sampler
  · subst other
    rw [outcomes_singleton]
    cases aligned with
    | together scene busy remains phase sample ahead =>
      have remains' : (full.act samples).skips samples rest = false := by
        rw [skips_cons_of_busy busy] at remains
        exact remains
      have stays : full.thin samples rest [.sampler] = [.sampler] := by simp [thin, remains']
      have outcome : (thinned.act renumbered).outcome? = (full.act samples).outcome? := by
        rw [outcome?, outcome?, (act_alike busy phase scene sample).1]
      rw [stays, outcomes_singleton, outcome]
      refine ⟨.proceed scene busy remains phase sample ahead, ?_⟩
      cases ended : (full.act samples).outcome? with
      | none => rfl
      | some found =>
        rw [skips_of_outcome ended] at remains'
        simp [remains']
    | waiting scene apart idle ahead =>
      by_cases begun : full.Idle
      · refine ⟨.begin scene begun idle ahead, ?_⟩
        -- nothing ends with a tick's first action
        have first : (full.act samples).outcome? = none := outcome?_of_busy (not_idle_load begun)
        rw [first]
        cases skips : (full.act samples).skips samples rest with
        | true =>
          have gone : full.thin samples rest [.sampler] = [] := by simp [thin, skips]
          rw [gone]
          rfl
        | false =>
          have stays : full.thin samples rest [.sampler] = [.sampler] := by simp [thin, skips]
          rw [stays, outcomes_singleton, outcome?_of_busy (not_idle_load idle)]
          rfl
      · have skips : (full.act samples).skips samples rest = true := by
          have later := apart.resolve_left begun
          rw [skips_cons_of_busy begun] at later
          exact later
        have gone : full.thin samples rest [.sampler] = [] := by simp [thin, skips]
        have later : full.kept samples (.sampler :: rest) =
            (full.act samples).kept samples rest :=
          kept_cons_of_not rfl fun begins => begun begins.2.1
        rw [gone]
        rw [later] at ahead
        refine ⟨.waiting (scene.trans (scene_act_of_skips skips).symm) (.inr skips) idle ahead, ?_⟩
        cases ended : (full.act samples).outcome? with
        | none => rfl
        | some found =>
          rw [skips_of_outcome ended] at skips
          simp [skips, outcomes, gather]
  · rw [thin_other other, outcomes_other other, outcomes_other other]
    exact ⟨aligned.other other, rfl⟩

theorem Aligned.run (aligned : Aligned samples renumbered (moves ++ future) full thinned) :
    Aligned samples renumbered future (full.run samples moves)
        (thinned.run renumbered (full.thin samples future moves)) ∧
      thinned.outcomes renumbered (full.thin samples future moves) =
        (full.outcomes samples moves).filter (!·.skipped) := by
  induction moves generalizing full thinned with
  | nil => exact ⟨aligned, rfl⟩
  | cons move rest ih =>
    have aligned : Aligned samples renumbered (move :: (rest ++ future)) full thinned := aligned
    obtain ⟨next, first⟩ := aligned.step
    obtain ⟨last, others⟩ := ih next
    have apart : full.outcomes samples (move :: rest) = full.outcomes samples [move] ++
        (full.step samples move).outcomes samples rest :=
      outcomes_append samples full [move] rest
    rw [thin_cons, run_append, outcomes_append, run_cons, apart, List.filter_append, first,
      others]
    exact ⟨last, rfl⟩

theorem aligned_opening (samples : Nat → Sample) (scene : Scene) (moves : List Move) :
    Aligned samples (fewer samples (opening scene) moves) moves (opening scene)
      (opening scene) := by
  refine .waiting rfl (.inl (.inl rfl)) (.inl rfl) fun k n kept => ?_
  change samples (((opening scene).kept samples moves).getD (0 + k) 0) = samples n
  rw [Nat.zero_add, List.getD_eq_getElem?_getD, kept, Option.getD_some]

/-- Skipped ticks are stutter. Without them the run goes through the same scenes at the same
moments and every other tick comes to the same. In a fresh scene the panel stays shown until a
valid geometry has been written, and no action of a tick that reads an invalid one changes
anything. -/
theorem skipped_ticks_stutter (samples : Nat → Sample) (scene : Scene) :
    (∀ moves future : List Move,
      let remaining := fewer samples (opening scene) (moves ++ future)
      let thinned := (opening scene).thin samples future moves
      ((opening scene).run remaining thinned).scene =
          ((opening scene).run samples moves).scene ∧
        (opening scene).outcomes remaining thinned =
          ((opening scene).outcomes samples moves).filter (!·.skipped)) ∧
    (scene.shared = {} → ∀ moves : List Move,
      (∀ written, .cache written ∈ moves → written.read = none) →
      ((opening scene).run samples moves).slot = .visible) ∧
    ∀ front rest, InTick samples (opening scene) front rest →
      ((opening scene).run samples (front ++ .sampler :: rest ++ [.sampler])).Idle →
      ((opening scene).run samples
        (front ++ .sampler :: rest ++ [.sampler])).found.read = none →
      ∀ before, before ++ [.sampler] <+: .sampler :: rest ++ [.sampler] →
        ((opening scene).run samples (front ++ (before ++ [.sampler]))).scene =
          ((opening scene).run samples (front ++ before)).scene := by
  refine ⟨fun moves future => ?_, fun fresh moves invalid => ?_, ?_⟩
  · obtain ⟨aligned, outcomes⟩ := (aligned_opening samples scene (moves ++ future)).run
    exact ⟨aligned.scene_eq, outcomes⟩
  · exact ((blind_opening fresh).run invalid).slot
  · intro front rest inTick ended invalid before within
    have known : (opening scene).Sighted := fun judging => judging.elim
    have skipped := InTick.skipped_of_invalid known ended invalid
    -- the action is one of the tick's, whose end is known from here
    obtain ⟨later, split⟩ := within
    obtain ⟨part, begun⟩ : ∃ part, before ++ [.sampler] = .sampler :: part := by
      cases before with
      | nil => exact ⟨[], rfl⟩
      | cons first before =>
        rw [List.cons_append, List.cons_append, List.cons_append, List.cons.injEq] at split
        exact ⟨before ++ [.sampler], by rw [split.1, List.cons_append]⟩
    rw [begun, List.cons_append, List.cons_append, List.cons.injEq] at split
    have skips := (inTick.skips_eq split.2).trans skipped
    rw [← begun, ← List.append_assoc, run_append] at skips
    rw [← List.append_assoc, run_append]
    exact scene_act_of_skips skips

/-- A tick begins to hide the panel; then the output is gone, and a second tick that would be due
finds no geometry. -/
def blackout : List Move := undisturbed 5 ++ .cache {} :: List.replicate 3 .sampler

theorem skipped_ticks_stutter_blackout :
    (opening (.fresh {} 0)).thin visit [] blackout = undisturbed 5 ++ [.cache {}] ∧
    ((opening (.fresh {} 0)).run (fewer visit (opening (.fresh {} 0)) blackout)
      (undisturbed 5 ++ [.cache {}])).scene =
        ((opening (.fresh {} 0)).run visit blackout).scene ∧
    ((opening (.fresh {} 0)).run visit [.cache {}, .sampler, .sampler, .sampler]).slot =
      .visible ∧
    ((opening (.fresh {} 0)).run visit blackout).found.read = none ∧
    ((opening (.fresh {} 0)).run visit (undisturbed 5 ++ [.cache {}] ++ [.sampler])).scene =
      ((opening (.fresh {} 0)).run visit (undisturbed 5 ++ [.cache {}])).scene := by
  obtain ⟨stutter, unseen, untouched⟩ := skipped_ticks_stutter visit (.fresh {} 0)
  have thinned : (opening (.fresh {} 0)).thin visit [] blackout =
      undisturbed 5 ++ [.cache {}] := by decide
  have busy : ∀ part ∈ [Move.sampler].inits,
      ¬ ((opening (.fresh {} 0)).run visit
        (undisturbed 5 ++ [.cache {}] ++ .sampler :: part)).Idle := by decide
  have inTick : InTick visit (opening (.fresh {} 0)) (undisturbed 5 ++ [.cache {}]) [.sampler] :=
    ⟨by decide, fun part within => busy part ((List.mem_inits part _).mpr within)⟩
  have invalid : ((opening (.fresh {} 0)).run visit blackout).found.read = none := by decide
  have same := (stutter blackout []).1
  rw [List.append_nil, thinned] at same
  have nothing : ∀ written, .cache written ∈ [Move.cache {}, .sampler, .sampler, .sampler] →
      written.read = none := by
    intro written within
    simp only [List.mem_cons, Move.cache.injEq, reduceCtorEq, List.not_mem_nil, or_false] at within
    rw [within]
    rfl
  exact ⟨thinned, same, unseen rfl _ nothing, invalid,
    untouched _ _ inTick (by decide) invalid [] (by decide)⟩

end Race

end EdgeReveal
