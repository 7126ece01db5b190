import EdgeReveal.Proofs.Machine.Observe
import EdgeReveal.Sampler

/-!
# The sampler among other actors

A race runs the sampler one atomic action at a time. Between any two actions
others may store overrides, rewrite the geometry cache and use the mailbox; a
list of moves says who acts when, and every list is possible. `Acts` lists
what one action of the sampler can do.
-/
namespace EdgeReveal

/-- Ticks are numbered; `found` is the cache as the sampler last read it. -/
structure Race where
  scene : Scene
  found : GeometryCache := {}
  tick : Nat := 0
  phase : Phase := .ready
  deriving Repr, Inhabited

inductive Move where
  | sampler
  /-- The dispatcher handles an override for `event`. -/
  | override (event : String)
  | cache (written : GeometryCache)
  /-- Others send and receive, and leave the mailbox like this. -/
  | mailbox (left : Mailbox Request)
  deriving DecidableEq, Repr

namespace Race

def slot (r : Race) : Visibility := r.scene.shared.slot.load

/-- No tick is in progress. -/
def Idle (r : Race) : Prop := r.phase = .ready ∨ ∃ outcome, r.phase = .done outcome

instance (r : Race) : Decidable r.Idle :=
  match phase : r.phase with
  | .ready => .isTrue (.inl phase)
  | .done outcome => .isTrue (.inr ⟨outcome, phase⟩)
  | .loaded _ | .aimed _ _ | .placed _ _ | .judged _ _ | .announcing _ =>
    .isFalse (by simp [Idle, phase])

/-- The tick whose action comes next, and how far it has come. -/
def upcoming (r : Race) : Nat × Phase :=
  match r.phase with
  | .done _ => (r.tick + 1, .ready)
  | phase => (r.tick, phase)

/-- The sampler's next action; tick `n` works on `samples n`. -/
def act (samples : Nat → Sample) (r : Race) : Race :=
  let (tick, phase) := r.upcoming
  let (advanced, scene) := Sampler.advance (samples tick) r.scene phase
  let found := match phase with
    | .aimed _ _ => r.scene.shared.geometry
    | _ => r.found
  { scene := scene, found := found, tick := tick, phase := advanced }

def step (samples : Nat → Sample) (r : Race) : Move → Race
  | .sampler => r.act samples
  | .override _ => { r with scene := { r.scene with shared := r.scene.shared.store .visible } }
  | .cache written =>
    { r with scene := { r.scene with shared := { r.scene.shared with geometry := written } } }
  | .mailbox left => { r with scene := { r.scene with requests := left } }

def run (samples : Nat → Sample) (r : Race) (moves : List Move) : Race :=
  moves.foldl (step samples) r

/-- The race before the first tick. -/
def opening (scene : Scene) : Race := { scene := scene }

/-- What the moves contribute one by one, in order. -/
def gather {α : Type} (samples : Nat → Sample) (part : Race → Move → List α) (r : Race) :
    List Move → List α
  | [] => []
  | move :: moves => part r move ++ (r.step samples move).gather samples part moves

variable {samples : Nat → Sample} {r r' : Race}

@[simp] theorem run_nil : r.run samples [] = r := rfl

@[simp] theorem run_cons (move : Move) (moves : List Move) :
    r.run samples (move :: moves) = (r.step samples move).run samples moves := rfl

@[simp] theorem run_append (front back : List Move) :
    r.run samples (front ++ back) = (r.run samples front).run samples back :=
  List.foldl_append

theorem gather_concat {α : Type} (part : Race → Move → List α) (moves : List Move) (move : Move) :
    r.gather samples part (moves ++ [move]) =
      r.gather samples part moves ++ part (r.run samples moves) move := by
  induction moves generalizing r with
  | nil => exact List.append_nil _
  | cons first moves ih =>
    rw [List.cons_append, gather, gather, ih, List.append_assoc, run_cons]

/-! ### What one action does -/

/-- The number of the tick that begins next. -/
def next (r : Race) : Nat := r.upcoming.1

/-- The sampler's exchange comes next, and it will put `decided.next` into the slot. -/
def Exchanges (r : Race) (decided : Step) : Prop :=
  r.phase = .judged r.slot decided ∧ decided.next ≠ r.slot

instance (r : Race) (decided : Step) : Decidable (r.Exchanges decided) :=
  inferInstanceAs (Decidable (_ ∧ _))

theorem next_of_done {outcome : Outcome} (done : r.phase = .done outcome) :
    r.next = r.tick + 1 := by
  rw [next, upcoming, done]

theorem act_of_idle (idle : r.Idle) :
    r.act samples = { r with tick := r.next, phase := .loaded r.slot } := by
  obtain ⟨scene, found, tick, phase⟩ := r
  rcases idle with ready | ⟨outcome, done⟩
  · cases ready
    rfl
  · cases done
    rfl

theorem act_of_loaded {current : Visibility} (stage : r.phase = .loaded current) :
    r.act samples =
      { r with
        phase :=
          match (samples r.tick).pointer with
          | none => .done .pointerUnavailable
          | some pointer => .aimed current pointer } := by
  obtain ⟨scene, found, tick, phase⟩ := r
  obtain rfl : phase = .loaded current := stage
  cases asked : (samples tick).pointer <;> simp only [act, upcoming, Sampler.advance, asked]

theorem act_of_aimed {current : Visibility} {p : Position} (stage : r.phase = .aimed current p) :
    r.act samples =
      { r with
        found := r.scene.shared.geometry
        phase :=
          match Sampler.place r.scene.shared.geometry p with
          | .error skipped => .done skipped
          | .ok height => .placed current height } := by
  obtain ⟨scene, found, tick, phase⟩ := r
  obtain rfl : phase = .aimed current p := stage
  cases on : Sampler.place scene.shared.geometry p <;>
    simp only [act, upcoming, Sampler.advance, on]

theorem act_of_placed {current : Visibility} {height : Int32}
    (stage : r.phase = .placed current height) :
    r.act samples =
      { r with
        scene := { r.scene with
          machine := (r.scene.machine.observe current height (samples r.tick).now).2 }
        phase := .judged current
          (r.scene.machine.observe current height (samples r.tick).now).1 } := by
  obtain ⟨scene, found, tick, phase⟩ := r
  obtain rfl : phase = .placed current height := stage
  rfl

/-- No exchange is tried if there is nothing to change. -/
theorem act_of_judged {current : Visibility} {decided : Step}
    (stage : r.phase = .judged current decided) :
    r.act samples =
      if decided.next = current then { r with phase := .done (.observed decided) }
      else if r.slot = current then
        { r with
          scene := { r.scene with shared := { r.scene.shared with slot := ⟨decided.next⟩ } }
          phase := if decided.committed then .announcing decided else .done (.observed decided) }
      else { r with phase := .done (.superseded r.slot) } := by
  have goesOn : r.upcoming = (r.tick, .judged current decided) := by
    rw [upcoming, stage]
  by_cases same : decided.next = current
  · simp only [act, goesOn, Sampler.advance, if_pos same]
  · rw [if_neg same]
    by_cases held : r.slot = current
    · have exchanged := Slot.exchange_of_eq decided.next held
      simp only [act, goesOn, Sampler.advance, if_neg same, if_pos held, exchanged]
    · have refused := Slot.exchange_of_ne decided.next held
      rw [if_neg held]
      simp only [act, goesOn, Sampler.advance, if_neg same, refused, slot]

theorem act_of_announcing {decided : Step} (stage : r.phase = .announcing decided) :
    r.act samples =
      { r with
        scene := { r.scene with requests := r.scene.requests.post .render }
        phase := .done (.observed decided) } := by
  obtain ⟨scene, found, tick, phase⟩ := r
  obtain rfl : phase = .announcing decided := stage
  rfl

theorem Exchanges.act {decided : Step} (exchanges : r.Exchanges decided) :
    r.act samples =
      { r with
        scene := { r.scene with shared := { r.scene.shared with slot := ⟨decided.next⟩ } }
        phase :=
          if decided.committed then .announcing decided else .done (.observed decided) } := by
  rw [act_of_judged exchanges.1, if_neg exchanges.2, if_pos rfl]

/-- The actions of the sampler, one constructor each. -/
inductive Acts (samples : Nat → Sample) (r : Race) : Race → Prop
  | load (idle : r.Idle) : Acts samples r { r with tick := r.next, phase := .loaded r.slot }
  | pointerLost {current : Visibility} (stage : r.phase = .loaded current)
      (lost : (samples r.tick).pointer = none) :
      Acts samples r { r with phase := .done .pointerUnavailable }
  | aim {current : Visibility} {pointer : Position} (stage : r.phase = .loaded current)
      (got : (samples r.tick).pointer = some pointer) :
      Acts samples r { r with phase := .aimed current pointer }
  | skip {current : Visibility} {pointer : Position} {outcome : Outcome}
      (stage : r.phase = .aimed current pointer)
      (off : Sampler.place r.scene.shared.geometry pointer = .error outcome) :
      Acts samples r { r with found := r.scene.shared.geometry, phase := .done outcome }
  | place {current : Visibility} {pointer : Position} {height : Int32}
      (stage : r.phase = .aimed current pointer)
      (on : Sampler.place r.scene.shared.geometry pointer = .ok height) :
      Acts samples r { r with found := r.scene.shared.geometry, phase := .placed current height }
  | judge {current : Visibility} {height : Int32} (stage : r.phase = .placed current height) :
      Acts samples r
        { r with
          scene := { r.scene with
            machine := (r.scene.machine.observe current height (samples r.tick).now).2 }
          phase := .judged current
            (r.scene.machine.observe current height (samples r.tick).now).1 }
  | keep {decided : Step} {current : Visibility} (stage : r.phase = .judged current decided)
      (same : decided.next = current) :
      Acts samples r { r with phase := .done (.observed decided) }
  | yield {decided : Step} {current : Visibility} (stage : r.phase = .judged current decided)
      (moves : decided.next ≠ current) (taken : r.slot ≠ current) :
      Acts samples r { r with phase := .done (.superseded r.slot) }
  | exchange {decided : Step} (exchanges : r.Exchanges decided) :
      Acts samples r
        { r with
          scene := { r.scene with shared := { r.scene.shared with slot := ⟨decided.next⟩ } }
          phase := if decided.committed then .announcing decided else .done (.observed decided) }
  | announce {decided : Step} (stage : r.phase = .announcing decided) :
      Acts samples r
        { r with
          scene := { r.scene with requests := r.scene.requests.post .render }
          phase := .done (.observed decided) }

theorem acts_act (samples : Nat → Sample) (r : Race) : Acts samples r (r.act samples) := by
  cases stage : r.phase with
  | ready =>
    rw [act_of_idle (.inl stage)]
    exact .load (.inl stage)
  | done outcome =>
    rw [act_of_idle (.inr ⟨outcome, stage⟩)]
    exact .load (.inr ⟨outcome, stage⟩)
  | loaded current =>
    rw [act_of_loaded stage]
    cases asked : (samples r.tick).pointer with
    | none => exact .pointerLost stage asked
    | some pointer => exact .aim stage asked
  | aimed current pointer =>
    rw [act_of_aimed stage]
    cases on : Sampler.place r.scene.shared.geometry pointer with
    | error outcome => exact .skip stage on
    | ok height => exact .place stage on
  | placed current height =>
    rw [act_of_placed stage]
    exact .judge stage
  | judged current decided =>
    rw [act_of_judged stage]
    split
    next same => exact .keep stage same
    next moves =>
      split
      next held =>
        subst held
        exact .exchange ⟨stage, moves⟩
      next taken => exact .yield stage moves taken
  | announcing decided =>
    rw [act_of_announcing stage]
    exact .announce stage

/-- The other actors do not touch the sampler's own state. -/
theorem step_frame (samples : Nat → Sample) (r : Race) {move : Move} (other : move ≠ .sampler) :
    (r.step samples move).phase = r.phase ∧ (r.step samples move).tick = r.tick ∧
      (r.step samples move).found = r.found ∧
      (r.step samples move).scene.machine = r.scene.machine := by
  cases move with
  | sampler => exact absurd rfl other
  | override event | cache written | mailbox left => exact ⟨rfl, rfl, rfl, rfl⟩

/-- However much the other actors do, the sampler's own state stays as it is. -/
theorem run_frame (samples : Nat → Sample) (r : Race) {others : List Move}
    (absent : .sampler ∉ others) :
    (r.run samples others).phase = r.phase ∧
      (r.run samples others).scene.machine = r.scene.machine := by
  induction others generalizing r with
  | nil => exact ⟨rfl, rfl⟩
  | cons move rest ih =>
    rw [List.mem_cons, not_or] at absent
    obtain ⟨phase, -, -, machine⟩ := step_frame samples r (Ne.symm absent.1)
    obtain ⟨phase', machine'⟩ := ih (r.step samples move) absent.2
    exact ⟨phase'.trans phase, machine'.trans machine⟩

/-! ### Ticks -/

theorem idle_step {move : Move} (other : move ≠ .sampler) :
    (r.step samples move).Idle ↔ r.Idle := by
  rw [Idle, Idle, (step_frame samples r other).1]

theorem Idle.not_judged (idle : r.Idle) (current : Visibility) (decided : Step) :
    r.phase ≠ .judged current decided := by
  rcases idle with ready | ⟨outcome, done⟩
  · simp [ready]
  · simp [done]

theorem Idle.not_announcing (idle : r.Idle) (decided : Step) : r.phase ≠ .announcing decided := by
  rcases idle with ready | ⟨outcome, done⟩
  · simp [ready]
  · simp [done]

/-- A tick takes more than its first action. -/
theorem not_idle_load (idle : r.Idle) : ¬ (r.act samples).Idle := by
  obtain ⟨scene, found, tick, phase⟩ := r
  rcases idle with ready | ⟨outcome, done⟩
  · cases ready
    rintro (ready | ⟨outcome, done⟩) <;> contradiction
  · cases done
    rintro (ready | ⟨outcome, done⟩) <;> contradiction

/-- A tick began right after `front` and is still in progress at the end of `rest`. -/
structure InTick (samples : Nat → Sample) (start : Race) (front rest : List Move) : Prop where
  begun : (start.run samples front).Idle
  busy : ∀ part, part <+: rest → ¬ (start.run samples (front ++ .sampler :: part)).Idle

variable {start : Race} {front moves rest : List Move}

theorem InTick.shorter {move : Move} (inTick : InTick samples start front (rest ++ [move])) :
    InTick samples start front rest :=
  ⟨inTick.begun, fun part within => inTick.busy part (within.trans (List.prefix_append _ _))⟩

theorem InTick.concat {move : Move} (inTick : InTick samples start front rest)
    (busy : ¬ (start.run samples (front ++ .sampler :: (rest ++ [move]))).Idle) :
    InTick samples start front (rest ++ [move]) := by
  refine ⟨inTick.begun, fun part within => ?_⟩
  rcases List.prefix_concat_iff.mp within with rfl | within
  · exact busy
  · exact inTick.busy part within

/-- A moment with no tick in progress is not inside a tick. -/
theorem InTick.prefix_front (inTick : InTick samples start front rest)
    (within : moves <+: front ++ .sampler :: rest) (idle : (start.run samples moves).Idle) :
    moves <+: front := by
  rcases List.prefix_or_prefix_of_prefix within (List.prefix_append front _) with shorter | longer
  · exact shorter
  · obtain ⟨more, rfl⟩ := longer
    -- a longer prefix ends in the tick, where no moment is idle
    rcases List.prefix_cons_iff.mp ((List.prefix_append_right_inj front).mp within) with
      rfl | ⟨part, rfl, part_prefix⟩
    · exact ⟨[], by rw [List.append_nil, List.append_nil]⟩
    · exact absurd idle (inTick.busy part part_prefix)

/-! ### What the sampler knows -/

/-- The machine keeps to its settings, and a step not yet taken follows the transition table. -/
structure Sound (settings : Settings) (samples : Nat → Sample) (r : Race) : Prop where
  tuned : r.scene.machine.Tuned settings
  judged : ∀ current decided, r.phase = .judged current decided →
    Leads r.scene.machine (samples r.tick).now current decided

variable {settings : Settings}

theorem Sound.act (sound : Sound settings samples r) : Sound settings samples (r.act samples) := by
  have acts := acts_act samples r
  generalize r.act samples = r' at acts ⊢
  cases acts with
  | load | pointerLost | aim | skip | place | keep | yield | announce =>
    exact ⟨sound.tuned, fun current decided stage => by cases stage⟩
  | judge stage =>
    refine ⟨sound.tuned.observe _ _ _, fun current decided stage => ?_⟩
    obtain ⟨rfl, rfl⟩ := Phase.judged.inj stage
    exact Machine.observe_leads sound.tuned.delayed _ _ _
  | @exchange taken exchanges =>
    refine ⟨sound.tuned, fun current decided stage => ?_⟩
    cases committed : taken.committed <;> simp [committed] at stage

theorem Sound.step (sound : Sound settings samples r) (move : Move) :
    Sound settings samples (r.step samples move) := by
  by_cases other : move = .sampler
  · subst other
    exact sound.act
  · obtain ⟨phase, tick, -, machine⟩ := step_frame samples r other
    refine ⟨by rw [machine]; exact sound.tuned, ?_⟩
    rw [phase, tick, machine]
    exact sound.judged

theorem Sound.run (sound : Sound settings samples r) (moves : List Move) :
    Sound settings samples (r.run samples moves) := by
  induction moves generalizing r with
  | nil => exact sound
  | cons move moves ih => exact ih (sound.step move)

/-! ### A pointer that goes down and up again -/

/-- Every three seconds a sample: two below the panel, then all at the top edge. -/
def visit (n : Nat) : Sample := ⟨n * milliseconds 3000, some ⟨10, if n < 2 then 80 else 0⟩⟩

/-- A small output with the standard settings. -/
def small : Scene where
  shared := { geometry := ⟨{ width := 100, height := 100, valid := true }⟩ }
  machine := .create {} 0

/-- The sampler acts, then an event overrides, then the sampler goes on. -/
def disturbed (before after : Nat) : List Move :=
  List.replicate before .sampler ++ .override "workspacev2" :: List.replicate after .sampler

/-- The output becomes known, and then only the sampler acts. -/
def undisturbed (actions : Nat) : List Move :=
  .cache small.shared.geometry :: List.replicate actions .sampler

end Race

end EdgeReveal
