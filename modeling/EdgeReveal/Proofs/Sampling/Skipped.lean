import EdgeReveal.Proofs.Sampling.Race

/-!
# Skipped samples

A tick that finds no pointer, no output or the pointer elsewhere ends before the machine sees its
sample, and none of its actions changes anything that the actors share. Whether a tick will be
skipped can be told at every moment in it, and from the moment its sample has a place on the
output it will not be. So before any geometry is known nothing happens at all.
-/
namespace EdgeReveal

/-- The sample was not shown to the machine. -/
def Outcome.skipped : Outcome → Bool
  | .pointerUnavailable | .noGeometry | .offOutput => true
  | .observed _ | .superseded _ => false

namespace Race

/-- What the last tick came to, if none is in progress. -/
def outcome? (r : Race) : Option Outcome :=
  match r.phase with
  | .done outcome => some outcome
  | _ => none

/-- What the tick in progress comes to, if the moves bring it to its end. -/
def ending (samples : Nat → Sample) (r : Race) : List Move → Option Outcome
  | [] => r.outcome?
  | move :: rest => r.outcome?.or ((r.step samples move).ending samples rest)

/-- The tick in progress will be skipped. -/
def skips (samples : Nat → Sample) (r : Race) (moves : List Move) : Bool :=
  (r.ending samples moves).any Outcome.skipped

variable {samples : Nat → Sample} {r : Race} {move : Move} {rest future moves : List Move}

/-! ### Ticks that are skipped -/

theorem act_not_ready (samples : Nat → Sample) (r : Race) : (r.act samples).phase ≠ .ready := by
  have acts := acts_act samples r
  generalize r.act samples = r' at acts ⊢
  cases acts with
  | load | pointerLost | aim | skip | place | judge | keep | yield | announce => simp
  | @exchange decided => cases decided.committed <;> simp

theorem outcome?_of_busy (busy : ¬ r.Idle) : r.outcome? = none := by
  unfold outcome?
  split
  next outcome done => exact absurd (.inr ⟨outcome, done⟩) busy
  next => rfl

theorem ending_of_outcome {outcome : Outcome} (ended : r.outcome? = some outcome)
    (moves : List Move) : r.ending samples moves = some outcome := by
  cases moves with
  | nil => exact ended
  | cons move rest => rw [ending, ended, Option.some_or]

theorem skips_of_outcome {outcome : Outcome} (ended : r.outcome? = some outcome) :
    r.skips samples moves = outcome.skipped := by
  rw [skips, ending_of_outcome ended, Option.any_some]

theorem skips_cons_of_busy (busy : ¬ r.Idle) :
    r.skips samples (move :: rest) = (r.step samples move).skips samples rest := by
  rw [skips, ending, outcome?_of_busy busy, Option.none_or, skips]

/-- The other actors do not decide what a tick comes to before it goes on. -/
theorem skips_cons_of_other (other : move ≠ .sampler) :
    r.skips samples (move :: rest) = (r.step samples move).skips samples rest := by
  have outcome : (r.step samples move).outcome? = r.outcome? := by
    rw [outcome?, outcome?, (step_frame samples r other).1]
  cases ended : r.outcome? with
  | some found => rw [skips_of_outcome ended, skips_of_outcome (outcome.trans ended)]
  | none => rw [skips, ending, ended, Option.none_or, skips]

/-- The tick in progress, or else the last one, has shown its sample to the machine, or is about
to. -/
def Judging (r : Race) : Prop :=
  match r.phase with
  | .placed _ _ | .judged _ _ | .announcing _ => True
  | .done outcome => outcome.skipped = false
  | .ready | .loaded _ | .aimed _ _ => False

theorem skipped_of_place {cache : GeometryCache} {pointer : Position} {outcome : Outcome}
    (off : Sampler.place cache pointer = .error outcome) : outcome.skipped = true := by
  unfold Sampler.place at off
  split at off
  · cases off
    rfl
  · split at off
    · cases off
      rfl
    · cases off

/-- Once the sample has a place on the output, the tick will not be skipped. -/
theorem Judging.act (judging : r.Judging) (busy : ¬ r.Idle) : (r.act samples).Judging := by
  have acts := acts_act samples r
  generalize r.act samples = r' at acts ⊢
  cases acts with
  | load idle => exact absurd idle busy
  | pointerLost stage | aim stage | skip stage | place stage => simp [Judging, stage] at judging
  | judge | keep | yield | announce => simp [Judging, Outcome.skipped]
  | @exchange decided => cases decided.committed <;> simp [Judging, Outcome.skipped]

theorem Judging.step (judging : r.Judging) (busy : ¬ r.Idle) (move : Move) :
    (r.step samples move).Judging := by
  by_cases other : move = .sampler
  · subst other
    exact judging.act busy
  · unfold Judging at judging ⊢
    rw [(step_frame samples r other).1]
    exact judging

theorem Judging.not_skips (judging : r.Judging) (moves : List Move) :
    r.skips samples moves = false := by
  induction moves generalizing r with
  | nil =>
    cases ended : r.outcome? with
    | none => rw [skips, ending, ended, Option.any_none]
    | some outcome =>
      have done : r.phase = .done outcome := by
        unfold outcome? at ended
        split at ended
        next found phase => rw [phase, Option.some.inj ended]
        next => cases ended
      rw [skips_of_outcome ended]
      simpa [Judging, done] using judging
  | cons move rest ih =>
    by_cases idle : r.Idle
    · rcases idle with ready | ⟨outcome, done⟩
      · simp [Judging, ready] at judging
      · have ended : r.outcome? = some outcome := by simp [outcome?, done]
        rw [skips_of_outcome ended]
        simpa [Judging, done] using judging
    · rw [skips_cons_of_busy idle]
      exact ih (judging.step idle move)

theorem not_judging_of_skips (skips : r.skips samples moves = true) : ¬ r.Judging := by
  intro judging
  rw [judging.not_skips] at skips
  cases skips

/-- No action of a skipped tick changes anything that the actors share, or the machine. -/
theorem scene_act_of_skips (skips : (r.act samples).skips samples moves = true) :
    (r.act samples).scene = r.scene := by
  have acts := acts_act samples r
  generalize r.act samples = r' at acts skips ⊢
  cases acts with
  | load | pointerLost | aim | skip => rfl
  | place | judge | keep | yield | announce =>
    exact absurd (by simp [Judging, Outcome.skipped]) (not_judging_of_skips skips)
  | @exchange decided =>
    refine absurd ?_ (not_judging_of_skips skips)
    cases decided.committed <;> simp [Judging, Outcome.skipped]

/-! ### Ticks that find no geometry -/

/-- Nothing has been seen of any output, so no sample has been judged and nothing has moved. -/
structure Blind (r : Race) : Prop where
  slot : r.slot = .visible
  unknown : r.scene.shared.geometry.read = none
  unjudged : ¬ r.Judging

theorem Blind.act (blind : r.Blind) : (r.act samples).Blind := by
  have unknown := blind.unknown
  have unjudged := blind.unjudged
  have acts := acts_act samples r
  generalize r.act samples = r' at acts ⊢
  cases acts with
  | load | pointerLost | aim => exact ⟨blind.slot, unknown, by simp [Judging, Outcome.skipped]⟩
  | skip stage off =>
    exact ⟨blind.slot, unknown, by simp [Judging, skipped_of_place off]⟩
  | place stage on => simp [Sampler.place, unknown] at on
  | judge stage | keep stage | yield stage | announce stage =>
    exact absurd (by simp [Judging, stage]) unjudged
  | exchange exchanges => exact absurd (by simp [Judging, exchanges.1]) unjudged

theorem Blind.step (blind : r.Blind)
    (invalid : ∀ written, move = .cache written → written.read = none) :
    (r.step samples move).Blind := by
  cases move with
  | sampler => exact blind.act
  | override event => exact ⟨rfl, blind.unknown, blind.unjudged⟩
  | mailbox left => exact ⟨blind.slot, blind.unknown, blind.unjudged⟩
  | cache written => exact ⟨blind.slot, invalid written rfl, blind.unjudged⟩

theorem Blind.run (blind : r.Blind) (invalid : ∀ written, .cache written ∈ moves →
    written.read = none) : (r.run samples moves).Blind := by
  induction moves generalizing r with
  | nil => exact blind
  | cons move rest ih =>
    refine ih (blind.step fun written same => ?_) fun written within => ?_
    · exact invalid written (same ▸ List.mem_cons_self)
    · exact invalid written (List.mem_cons_of_mem _ within)

theorem blind_opening {scene : Scene} (fresh : scene.shared = {}) : (opening scene).Blind where
  slot := by rw [slot, opening, fresh]; rfl
  unknown := by rw [opening, fresh]; rfl
  unjudged := id

/-- A sample is judged only after a read that found an output. -/
def Sighted (r : Race) : Prop := r.Judging → r.found.read ≠ none

theorem Sighted.act (known : r.Sighted) : (r.act samples).Sighted := by
  unfold Sighted at known ⊢
  have acts := acts_act samples r
  generalize r.act samples = r' at acts ⊢
  cases acts with
  | load | pointerLost | aim => simp [Judging, Outcome.skipped]
  | skip stage off => simp [Judging, skipped_of_place off]
  | place stage on =>
    rintro - unknown
    simp [Sampler.place, unknown] at on
  | judge stage | keep stage | yield stage | announce stage =>
    exact fun _ => known (by simp [Judging, stage])
  | exchange exchanges => exact fun _ => known (by simp [Judging, exchanges.1])

theorem Sighted.run (known : r.Sighted) (moves : List Move) :
    (r.run samples moves).Sighted := by
  induction moves generalizing r with
  | nil => exact known
  | cons move rest ih =>
    refine ih ?_
    by_cases other : move = .sampler
    · subst other
      exact known.act
    · obtain ⟨phase, -, found, -⟩ := step_frame samples r other
      unfold Sighted Judging at known ⊢
      rw [phase, found]
      exact known

/-- What a tick comes to can be told at every moment in it. -/
theorem InTick.skips_eq {start : Race} {front part : List Move}
    (inTick : InTick samples start front rest) (split : part ++ future = rest ++ [.sampler]) :
    (start.run samples (front ++ .sampler :: part)).skips samples future =
      (start.run samples (front ++ .sampler :: rest ++ [.sampler])).skips samples [] := by
  induction future generalizing part with
  | nil =>
    rw [List.append_nil] at split
    rw [split, List.append_assoc, List.cons_append]
  | cons move future ih =>
    have within : part <+: rest := by
      have shorter : part.length ≤ rest.length := by
        have lengths := congrArg List.length split
        simp at lengths
        omega
      exact List.prefix_of_prefix_length_le ⟨_, split⟩ (List.prefix_append _ _) shorter
    have grown : start.run samples (front ++ .sampler :: (part ++ [move])) =
        (start.run samples (front ++ .sampler :: part)).step samples move := by
      rw [← List.cons_append, ← List.append_assoc, run_append]
      rfl
    rw [skips_cons_of_busy (inTick.busy part within), ← grown]
    exact ih (by rw [List.append_assoc]; exact split)

/-- A tick behind which the cache last read is an invalid one has been skipped. -/
theorem InTick.skipped_of_invalid {start : Race} {front : List Move} (known : start.Sighted)
    (ended : (start.run samples (front ++ .sampler :: rest ++ [.sampler])).Idle)
    (invalid : (start.run samples (front ++ .sampler :: rest ++ [.sampler])).found.read = none) :
    (start.run samples (front ++ .sampler :: rest ++ [.sampler])).skips samples [] = true := by
  have unjudged : ¬ (start.run samples (front ++ .sampler :: rest ++ [.sampler])).Judging :=
    fun judging => known.run _ judging invalid
  rcases ended with ready | ⟨outcome, done⟩
  · rw [run_append] at ready
    exact absurd ready (act_not_ready samples _)
  · rw [skips, ending, outcome?, done]
    unfold Judging at unjudged
    rw [done] at unjudged
    exact eq_true_of_ne_false unjudged

end Race

end EdgeReveal
