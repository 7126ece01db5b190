import EdgeReveal.Proofs.Sampling.Race
import Mathlib.Data.List.Induction

/-!
# What a tick announces

A tick queues one request to render when its exchange settles a visibility,
and nothing otherwise. The queue belongs to others as well, who may empty it or
add to it at any time, so what is counted is what the sampler itself appends.
-/
namespace EdgeReveal

namespace Race

/-- What a move of the sampler appends to the queue. -/
def sent (samples : Nat → Sample) (r : Race) : Move → List Request
  | .sampler => (r.act samples).scene.requests.queue.drop r.scene.requests.queue.length
  | .override _ | .cache _ | .mailbox _ => []

/-- All that the sampler appends in the course of `moves`. -/
def posted (samples : Nat → Sample) (r : Race) (moves : List Move) : List Request :=
  r.gather samples (sent samples) moves

/-- Some exchange among the moves succeeds on a committed step. -/
def Commits (samples : Nat → Sample) (r : Race) (moves : List Move) : Prop :=
  ∃ part decided, part ++ [.sampler] <+: moves ∧ (r.run samples part).Exchanges decided ∧
    decided.committed = true

variable {samples : Nat → Sample} {r start : Race} {front rest moves : List Move}

theorem posted_concat (moves : List Move) (move : Move) :
    r.posted samples (moves ++ [move]) =
      r.posted samples moves ++ (r.run samples moves).sent samples move := gather_concat _ _ _

theorem commits_concat {move : Move} :
    r.Commits samples (moves ++ [move]) ↔
      r.Commits samples moves ∨
        move = .sampler ∧ ∃ decided, (r.run samples moves).Exchanges decided ∧
          decided.committed = true := by
  constructor
  · rintro ⟨part, decided, within, exchanges, committed⟩
    rcases List.prefix_concat_iff.mp within with same | within
    · obtain ⟨rfl, last⟩ := List.append_inj' same rfl
      exact .inr ⟨(List.singleton_inj.mp last).symm, decided, exchanges, committed⟩
    · exact .inl ⟨part, decided, within, exchanges, committed⟩
  · rintro (⟨part, decided, within, exchanges, committed⟩ | ⟨rfl, decided, exchanges, committed⟩)
    · exact ⟨part, decided, within.trans (List.prefix_append _ _), exchanges, committed⟩
    · exact ⟨moves, decided, List.prefix_rfl, exchanges, committed⟩

theorem not_commits_nil : ¬ r.Commits samples [] := by
  rintro ⟨part, decided, within, -⟩
  have empty := List.prefix_nil.mp within
  simp at empty

/-! ### One action -/

theorem sent_of_queue {extra : List Request}
    (grown : (r.act samples).scene.requests.queue = r.scene.requests.queue ++ extra) :
    r.sent samples .sampler = extra := by
  rw [sent, grown, List.drop_left]

/-- Only announcing appends anything. -/
theorem act_queue (samples : Nat → Sample) (r : Race) :
    (r.act samples).scene.requests.queue = r.scene.requests.queue ∧
        (∀ decided, r.phase ≠ .announcing decided) ∨
      (r.act samples).scene.requests.queue = (r.scene.requests.post .render).queue ∧
        (r.act samples).Idle ∧ ∃ decided, r.phase = .announcing decided := by
  have acts := acts_act samples r
  generalize r.act samples = r' at acts ⊢
  cases acts with
  | load idle => exact .inl ⟨rfl, idle.not_announcing⟩
  | pointerLost stage | aim stage | skip stage | place stage | judge stage | keep stage
  | yield stage =>
    refine .inl ⟨rfl, fun decided announcing => ?_⟩
    rw [stage] at announcing
    cases announcing
  | exchange exchanges =>
    refine .inl ⟨rfl, fun decided announcing => ?_⟩
    rw [exchanges.1] at announcing
    cases announcing
  | announce stage => exact .inr ⟨rfl, .inr ⟨_, rfl⟩, _, stage⟩

theorem sent_of_silent {move : Move} (silent : ∀ decided, r.phase ≠ .announcing decided) :
    r.sent samples move = [] := by
  cases move with
  | sampler =>
    rcases act_queue samples r with ⟨same, -⟩ | ⟨-, -, decided, announcing⟩
    · exact sent_of_queue (same.trans (List.append_nil _).symm)
    · exact absurd announcing (silent decided)
  | override event | cache written | mailbox left => rfl

theorem sent_of_announcing {decided : Step} (announcing : r.phase = .announcing decided)
    (receiving : r.scene.requests.receiving = true) :
    r.sent samples .sampler = [.render] := by
  rcases act_queue samples r with ⟨-, silent⟩ | ⟨posted, -⟩
  · exact absurd announcing (silent decided)
  · rw [Mailbox.queue_post, if_pos receiving] at posted
    exact sent_of_queue posted

/-! ### A whole tick -/

/-- A tick is about to announce only right after it has committed. -/
theorem announcing_act :
    (∃ decided, (r.act samples).phase = .announcing decided) ↔
      ∃ decided, r.Exchanges decided ∧ decided.committed = true := by
  constructor
  · rintro ⟨decided, announcing⟩
    have acts := acts_act samples r
    generalize r.act samples = r' at acts announcing
    cases acts with
    | load | pointerLost | aim | skip | place | judge | keep | yield | announce =>
      cases announcing
    | @exchange taken exchanges =>
      refine ⟨taken, exchanges, ?_⟩
      cases committed : taken.committed with
      | true => rfl
      | false => simp [committed] at announcing
  · rintro ⟨decided, exchanges, committed⟩
    refine ⟨decided, ?_⟩
    rw [exchanges.act, if_pos committed]

/-- What is known of a tick in progress: it has sent nothing, and announces if it has committed. -/
structure Unsent (samples : Nat → Sample) (begun : Race) (moves : List Move) : Prop where
  posted : begun.posted samples moves = []
  commits : begun.Commits samples moves ↔
    ∃ decided, (begun.run samples moves).phase = .announcing decided

theorem InTick.unsent (inTick : InTick samples start front rest) :
    Unsent samples (start.run samples front) (.sampler :: rest) := by
  -- one move at a time from the tick's first action on
  induction rest using List.reverseRecOn with
  | nil =>
    refine ⟨?_, ?_⟩
    · rw [posted, gather, gather, List.append_nil]
      exact sent_of_silent inTick.begun.not_announcing
    · rw [← List.nil_append [Move.sampler], commits_concat, run_append]
      simp only [not_commits_nil, true_and, false_or]
      exact announcing_act.symm
  | append_singleton rest move ih =>
    have before := ih inTick.shorter
    have busy := inTick.busy _ List.prefix_rfl
    rw [← List.cons_append, ← List.append_assoc, run_append, run_append] at busy
    rw [← List.cons_append]
    by_cases other : move = .sampler
    · subst other
      -- announcing would have ended the tick
      have quiet : ∀ decided,
          ((start.run samples front).run samples (.sampler :: rest)).phase ≠
            .announcing decided := by
        intro decided announcing
        rcases act_queue samples ((start.run samples front).run samples (.sampler :: rest)) with
          ⟨-, silent⟩ | ⟨-, ended, -⟩
        · exact silent decided announcing
        · exact busy ended
      refine ⟨?_, ?_⟩
      · rw [posted_concat, before.posted, List.nil_append]
        exact sent_of_silent quiet
      · rw [commits_concat, before.commits, run_append]
        simp only [quiet, exists_false, false_or, true_and]
        exact announcing_act.symm
    · refine ⟨?_, ?_⟩
      · rw [posted_concat, before.posted]
        cases move with
        | sampler => exact absurd rfl other
        | override event | cache written | mailbox left => rfl
      · have phase : ((start.run samples front).run samples (.sampler :: rest ++ [move])).phase =
            ((start.run samples front).run samples (.sampler :: rest)).phase := by
          rw [run_append]
          exact (step_frame samples _ other).1
        rw [commits_concat, before.commits, phase]
        simp only [other, false_and, or_false]

/-- A tick that has ended has queued one request if it committed, and else none. -/
theorem InTick.posted (inTick : InTick samples start front rest)
    (ended : (start.run samples (front ++ .sampler :: rest ++ [.sampler])).Idle)
    (receiving : (start.run samples (front ++ .sampler :: rest)).scene.requests.receiving = true) :
    ((start.run samples front).Commits samples (.sampler :: rest ++ [.sampler]) →
        (start.run samples front).posted samples (.sampler :: rest ++ [.sampler]) = [.render]) ∧
      (¬ (start.run samples front).Commits samples (.sampler :: rest ++ [.sampler]) →
        (start.run samples front).posted samples (.sampler :: rest ++ [.sampler]) = []) := by
  have unsent := inTick.unsent
  rw [run_append] at receiving
  rw [run_append, run_append] at ended
  rw [posted_concat, unsent.posted, List.nil_append, commits_concat, unsent.commits]
  -- an exchange on a committed step leaves the announcement to do
  have last : ¬ ∃ decided,
      ((start.run samples front).run samples (.sampler :: rest)).Exchanges decided ∧
        decided.committed = true := by
    rintro ⟨decided, exchanges, committed⟩
    obtain ⟨announced, announcing⟩ := announcing_act.mpr ⟨decided, exchanges, committed⟩
    exact ended.not_announcing announced announcing
  refine ⟨fun committed => ?_, fun uncommitted => ?_⟩
  · rcases committed with ⟨decided, announcing⟩ | ⟨-, exchanged⟩
    · exact sent_of_announcing announcing receiving
    · exact absurd exchanged last
  · exact sent_of_silent fun decided announcing => uncommitted (.inl ⟨decided, announcing⟩)

end Race

end EdgeReveal
