import EdgeReveal.SamplerThread

/-!
# A thread that is told to end

However far its tick has come and whatever it samples, a thread that has been told to end does so
after a few more actions: it ends the tick, does not sleep, and asks once more at most.
-/
namespace EdgeReveal

/-- How many actions of a tick are left at most. -/
def Phase.left : Phase → Nat
  | .ready => 6
  | .loaded _ => 5
  | .aimed _ _ => 4
  | .placed _ _ => 3
  | .judged _ _ => 2
  | .announcing _ => 1
  | .done _ => 0

theorem Phase.left_pos {phase : Phase} (busy : ∀ outcome, phase ≠ .done outcome) :
    0 < phase.left := by
  cases phase with
  | done outcome => exact absurd rfl (busy outcome)
  | ready | loaded | aimed | placed | judged | announcing => exact Nat.succ_pos _

theorem Sampler.left_advance (sample : Sample) (scene : Scene) (phase : Phase) :
    (advance sample scene phase).1.left ≤ phase.left - 1 := by
  cases phase with
  | ready | placed | announcing | done => exact Nat.le_refl _
  | loaded current =>
    cases asked : sample.pointer <;> simp [advance, asked, Phase.left]
  | aimed current pointer =>
    cases found : place scene.shared.geometry pointer <;> simp [advance, found, Phase.left]
  | judged current step =>
    simp only [advance]
    split
    · exact Nat.zero_le _
    · split
      · exact Nat.zero_le _
      · cases step.committed <;> simp [Phase.left]

/-- How many actions of the thread are left at most once it has been told to end. -/
def Stance.left : Stance → Nat
  | .asking => 1
  | .ticking phase => phase.left + 3
  | .sleeping => 2
  | .ended => 0

theorem Stance.left_le (stance : Stance) : stance.left ≤ 9 := by
  cases stance with
  | ticking phase => cases phase <;> simp [left, Phase.left]
  | asking | sleeping | ended => simp [left]

theorem Stance.left_eq_zero {stance : Stance} : stance.left = 0 ↔ stance = .ended := by
  cases stance <;> simp [left]

namespace SamplerThread

variable {t : SamplerThread}

/-- It has been told both ways. -/
def Halted (t : SamplerThread) : Prop := t.exit = true ∧ t.connected = false

/-- Whatever it samples, and whether it oversleeps or not. -/
def acts (turns : List (Sample × Bool)) (t : SamplerThread) : SamplerThread :=
  turns.foldl (fun t turn => t.act turn.1 turn.2) t

theorem Halted.act (halted : t.Halted) (sample : Sample) (late : Bool) :
    (t.act sample late).Halted ∧ (t.act sample late).stance.left ≤ t.stance.left - 1 := by
  obtain ⟨exit, closed⟩ := halted
  unfold SamplerThread.act
  split
  next asking => simp [Halted, Stance.left, exit, closed]
  next phase ticking =>
    have less := Sampler.left_advance sample t.scene phase
    split
    next advanced =>
      refine ⟨⟨exit, closed⟩, ?_⟩
      rw [ticking]
      simp [Stance.left]
    next phase' scene busy advanced =>
      -- The tick goes on, so it had more than its last action left.
      have more := Phase.left_pos busy
      refine ⟨⟨exit, closed⟩, ?_⟩
      rw [ticking]
      rw [advanced] at less
      simp only [Stance.left] at less ⊢
      omega
  next sleeping =>
    rw [sleeping]
    split
    next => exact ⟨⟨exit, closed⟩, Nat.le_refl _⟩
    next =>
      rw [if_neg (by simp [closed])]
      exact ⟨⟨exit, closed⟩, Nat.zero_le _⟩
  next ended => exact ⟨⟨exit, closed⟩, by simp [ended, Stance.left]⟩

theorem Halted.ends (halted : t.Halted) {turns : List (Sample × Bool)}
    (enough : t.stance.left ≤ turns.length) : (t.acts turns).stance = .ended := by
  induction turns generalizing t with
  | nil => exact Stance.left_eq_zero.mp (Nat.le_zero.mp enough)
  | cons turn turns ih =>
    obtain ⟨halted', less⟩ := halted.act turn.1 turn.2
    rw [List.length_cons] at enough
    exact ih halted' (Nat.le_trans less (Nat.sub_le_of_le_add enough))

end SamplerThread

end EdgeReveal
