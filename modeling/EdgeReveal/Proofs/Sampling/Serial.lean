import EdgeReveal.Proofs.Sampling.Announce
import Mathlib.Data.List.Induction
import Mathlib.Data.List.Infix

/-!
# Serial order of ticks and overrides

Whatever the actions of the ticks are mixed with, there is an order in which
every tick is one action and the slot and the machine are the same whenever no
tick is in progress. A tick that wins its exchange stands at the exchange:
overrides that came before it stored what the tick had loaded. Any other tick
stands where it loaded the slot, and the overrides during it come after it.
-/
namespace EdgeReveal

/-- What one tick gets from outside: its time, the pointer's answer and the cache. -/
structure Reading where
  sample : Sample
  cache : GeometryCache
  deriving DecidableEq, Repr, Inhabited

namespace Reading

/-- The height below the top edge, unless the sample is skipped. -/
def height (reading : Reading) : Option Int32 :=
  reading.sample.pointer.bind fun pointer => (Sampler.place reading.cache pointer).toOption

/-- What the machine makes of the reading, unless the sample is skipped. -/
def judge (reading : Reading) (m : Machine) (current : Visibility) : Option (Step × Machine) :=
  reading.height.map fun height => m.observe current height reading.sample.now

end Reading

/-- One action of a serial run. -/
inductive Op where
  | tick (number : Nat) (reading : Reading)
  | override (event : String)
  deriving DecidableEq, Repr

/-- A tick as one action, or the store of one override. -/
def Op.perform (scene : Scene) : Op → Scene
  | .tick _ reading =>
    (Sampler.tick reading.sample
      { scene with shared := { scene.shared with geometry := reading.cache } }).2
  | .override _ => { scene with shared := scene.shared.store .visible }

/-- The part of a scene that decides: the published visibility and the machine. -/
structure Core where
  slot : Visibility
  machine : Machine
  deriving DecidableEq, Repr

def Scene.core (scene : Scene) : Core := ⟨scene.shared.slot.load, scene.machine⟩

namespace Core

def perform (c : Core) : Op → Core
  | .tick _ reading =>
    match reading.judge c.machine c.slot with
    | some (step, machine) => ⟨step.next, machine⟩
    | none => c
  | .override _ => { c with slot := .visible }

def performAll (c : Core) (ops : List Op) : Core := ops.foldl perform c

@[simp] theorem performAll_nil (c : Core) : c.performAll [] = c := rfl

@[simp] theorem performAll_append (c : Core) (front back : List Op) :
    c.performAll (front ++ back) = (c.performAll front).performAll back := List.foldl_append

@[simp] theorem performAll_cons (c : Core) (op : Op) (ops : List Op) :
    c.performAll (op :: ops) = (c.perform op).performAll ops := rfl

end Core

/-- With no other actor in between, the exchange finds what the tick has loaded. -/
theorem core_finishJudged (scene : Scene) (decided : Step) :
    (Sampler.finishJudged scene scene.shared.slot.load decided).2.core =
      ⟨decided.next, scene.machine⟩ := by
  unfold Sampler.finishJudged
  split
  next same =>
    rw [same]
    rfl
  next moves =>
    rw [Slot.exchange_of_eq decided.next rfl]
    dsimp only
    split <;> rfl

theorem core_perform (scene : Scene) (op : Op) :
    (op.perform scene).core = scene.core.perform op := by
  cases op with
  | override event => rfl
  | tick number reading =>
    obtain ⟨⟨now, asked⟩, cache⟩ := reading
    cases asked with
    | none => rfl
    | some pointer =>
      cases on : Sampler.place cache pointer with
      | error outcome =>
        simp only [Op.perform, Sampler.tick, Sampler.finish, Sampler.finishLoaded,
          Sampler.finishAimed, on, Core.perform, Reading.judge, Reading.height, Option.bind_some,
          Except.toOption, Option.map_none]
        rfl
      | ok height =>
        simp only [Op.perform, Sampler.tick, Sampler.finish, Sampler.finishLoaded,
          Sampler.finishAimed, Sampler.finishPlaced, on, Core.perform, Reading.judge,
          Reading.height, Option.bind_some, Except.toOption, Option.map_some]
        exact core_finishJudged _ _

theorem core_performAll (scene : Scene) (ops : List Op) :
    (ops.foldl Op.perform scene).core = scene.core.performAll ops := by
  induction ops generalizing scene with
  | nil => rfl
  | cons op ops ih => rw [List.foldl_cons, ih, core_perform, Core.performAll_cons]

/-- The overrides among the moves, in order. -/
def overrides (moves : List Move) : List Op :=
  moves.filterMap fun
    | .override event => some (.override event)
    | _ => none

@[simp] theorem overrides_nil : overrides [] = [] := rfl

theorem overrides_append (front back : List Move) :
    overrides (front ++ back) = overrides front ++ overrides back := List.filterMap_append

/-- Overrides leave the machine alone, and how many there are makes no difference. -/
theorem Core.performAll_overrides (c : Core) (moves : List Move) :
    c.performAll (overrides moves) =
      if overrides moves = [] then c else { c with slot := .visible } := by
  induction moves generalizing c with
  | nil => rfl
  | cons move moves ih =>
    cases move with
    | override event =>
      change (c.perform (.override event)).performAll (overrides moves) = _
      rw [ih]
      change _ = { c with slot := .visible }
      split <;> rfl
    | sampler | cache written | mailbox left => exact ih c

theorem Core.machine_overrides (c : Core) (moves : List Move) :
    (c.performAll (overrides moves)).machine = c.machine := by
  rw [Core.performAll_overrides]
  split <;> rfl

/-- Overrides that leave the slot as it was have changed nothing. -/
theorem Core.overrides_unmoved {c : Core} {moves : List Move}
    (slot : (c.performAll (overrides moves)).slot = c.slot) :
    c.performAll (overrides moves) = c :=
  congrArg₂ Core.mk slot (c.machine_overrides moves)

namespace Race

variable (samples : Nat → Sample) (start : Race)

/-- What the tick in progress gets, or else what the last one got. -/
def reading (r : Race) : Reading := ⟨samples r.tick, r.found⟩

/-- That tick as one action. -/
def op (r : Race) : Op := .tick r.tick (r.reading samples)

/-- `ops` puts the ticks of `moves` that have ended, and all overrides, into one order. A tick
may stand anywhere among the overrides that fell between its first and its last action. -/
inductive Serialized : List Move → List Op → Prop
  | nil : Serialized [] []
  | between {front : List Move} {ops : List Op} {move : Move} (before : Serialized front ops)
      (idle : (start.run samples front).Idle) (other : move ≠ .sampler) :
      Serialized (front ++ [move]) (ops ++ overrides [move])
  | unfinished {front rest : List Move} {ops : List Op} (before : Serialized front ops)
      (inTick : InTick samples start front rest) :
      Serialized (front ++ .sampler :: rest) (ops ++ overrides rest)
  | tick {front rest : List Move} {ops earlier later : List Op} (before : Serialized front ops)
      (inTick : InTick samples start front rest)
      (ended : (start.run samples (front ++ .sampler :: rest ++ [.sampler])).Idle)
      (split : overrides rest = earlier ++ later) :
      Serialized (front ++ .sampler :: rest ++ [.sampler])
        (ops ++ earlier ++
          (start.run samples (front ++ .sampler :: rest ++ [.sampler])).op samples :: later)

/-! ### One tick -/

/-- The tick has a place among the overrides of `rest`, and is over but for announcing it. -/
def Ordered (origin : Core) (rest : List Move) (r : Race) : Prop :=
  ∃ earlier later, overrides rest = earlier ++ later ∧ origin.performAll earlier = origin ∧
    r.scene.core = (origin.perform (r.op samples)).performAll later

/-- How a tick that found `origin` when it began stands, with `rest` behind its first action.
Until the exchange only overrides have touched the slot; from then on the tick has a place. -/
def Underway (origin : Core) (rest : List Move) (r : Race) : Prop :=
  match r.phase with
  | .ready => False
  | .loaded current =>
    current = origin.slot ∧ r.scene.core = origin.performAll (overrides rest)
  | .aimed current pointer =>
    current = origin.slot ∧ r.scene.core = origin.performAll (overrides rest) ∧
      (samples r.tick).pointer = some pointer
  | .placed current height =>
    current = origin.slot ∧ r.scene.core = origin.performAll (overrides rest) ∧
      (r.reading samples).height = some height
  | .judged current decided =>
    current = origin.slot ∧ r.slot = (origin.performAll (overrides rest)).slot ∧
      (r.reading samples).judge origin.machine origin.slot = some (decided, r.scene.machine)
  | .announcing _ | .done _ => Ordered samples origin rest r

variable {samples : Nat → Sample} {start : Race} {origin : Core} {r : Race} {rest : List Move}

/-- From no tick in progress, the next action loads the slot. -/
theorem underway_load (idle : r.Idle) : Underway samples r.scene.core [] (r.act samples) := by
  obtain ⟨scene, found, tick, phase⟩ := r
  rcases idle with ready | ⟨outcome, done⟩
  · cases ready
    exact ⟨rfl, rfl⟩
  · cases done
    exact ⟨rfl, rfl⟩

theorem core_step {move : Move} (other : move ≠ .sampler) :
    (r.step samples move).scene.core = r.scene.core.performAll (overrides [move]) := by
  cases move with
  | sampler => exact absurd rfl other
  | override event | cache written | mailbox left => rfl

theorem Ordered.step {move : Move} (ordered : Ordered samples origin rest r)
    (other : move ≠ .sampler) : Ordered samples origin (rest ++ [move]) (r.step samples move) := by
  obtain ⟨earlier, later, split, unmoved, core⟩ := ordered
  obtain ⟨-, tick, found, -⟩ := step_frame samples r other
  refine ⟨earlier, later ++ overrides [move], ?_, unmoved, ?_⟩
  · rw [overrides_append, split, List.append_assoc]
  · rw [core_step other, core, Race.op, Race.op, Race.reading, Race.reading, tick, found,
      Core.performAll_append]

/-- What another actor does meanwhile is accounted for by its overrides. -/
theorem Underway.step {move : Move} (underway : Underway samples origin rest r)
    (other : move ≠ .sampler) : Underway samples origin (rest ++ [move]) (r.step samples move) := by
  obtain ⟨phase, tick, found, machine⟩ := step_frame samples r other
  have reading : (r.step samples move).reading samples = r.reading samples := by
    rw [Race.reading, Race.reading, tick, found]
  have past : r.scene.core = origin.performAll (overrides rest) →
      (r.step samples move).scene.core = origin.performAll (overrides (rest ++ [move])) := by
    intro core
    rw [core_step other, core, overrides_append, Core.performAll_append]
  have slot : r.slot = (origin.performAll (overrides rest)).slot →
      (r.step samples move).slot = (origin.performAll (overrides (rest ++ [move]))).slot := by
    intro same
    have moved : (r.step samples move).slot = (r.scene.core.performAll (overrides [move])).slot :=
      congrArg Core.slot (core_step other)
    rw [moved, overrides_append, Core.performAll_append, Core.performAll_overrides,
      Core.performAll_overrides _ [move]]
    split
    · exact same
    · rfl
  -- the phase stays, so each clause is carried over by itself
  unfold Underway at underway ⊢
  rw [phase]
  split at underway
  · exact underway
  · exact ⟨underway.1, past underway.2⟩
  · exact ⟨underway.1, past underway.2.1, by rw [tick]; exact underway.2.2⟩
  · exact ⟨underway.1, past underway.2.1, by rw [reading]; exact underway.2.2⟩
  · exact ⟨underway.1, slot underway.2.1, by rw [reading, machine]; exact underway.2.2⟩
  · exact Ordered.step underway other
  · exact Ordered.step underway other

/-- A tick that has not moved the slot stands before every override that fell into it. -/
theorem ordered_first (slot : r.slot =
      ((origin.perform (r.op samples)).performAll (overrides rest)).slot)
    (machine : r.scene.machine = (origin.perform (r.op samples)).machine) :
    Ordered samples origin rest r := by
  have untouched := Core.machine_overrides (origin.perform (r.op samples)) rest
  exact ⟨[], overrides rest, rfl, rfl, congrArg₂ Core.mk slot (machine.trans untouched.symm)⟩

theorem ordered_skipped (core : r.scene.core = origin.performAll (overrides rest))
    (skipped : (r.reading samples).height = none) : Ordered samples origin rest r := by
  have nothing : origin.perform (r.op samples) = origin := by
    simp only [op, Core.perform, Reading.judge, skipped, Option.map_none]
  refine ordered_first ?_ ?_
  · rw [nothing, ← core]
    rfl
  · rw [nothing, ← Core.machine_overrides origin rest, ← core]
    rfl

theorem perform_of_judge {decided : Step} {machine : Machine}
    (verdict : (r.reading samples).judge origin.machine origin.slot = some (decided, machine)) :
    origin.perform (r.op samples) = ⟨decided.next, machine⟩ := by
  simp only [op, Core.perform, verdict]

/-- A tick that decides to leave the slot alone stands where it loaded it. -/
theorem ordered_kept {decided : Step} (same : decided.next = origin.slot)
    (slot : r.slot = (origin.performAll (overrides rest)).slot)
    (verdict : (r.reading samples).judge origin.machine origin.slot =
      some (decided, r.scene.machine)) : Ordered samples origin rest r := by
  have done := perform_of_judge verdict
  refine ordered_first ?_ (congrArg Core.machine done).symm
  rw [done, slot, same, Core.performAll_overrides, Core.performAll_overrides]
  split <;> rfl

/-- A tick that loses its exchange stands there too: what it would have stored has been
overridden. -/
theorem ordered_yielded {decided : Step} (taken : r.slot ≠ origin.slot)
    (slot : r.slot = (origin.performAll (overrides rest)).slot)
    (verdict : (r.reading samples).judge origin.machine origin.slot =
      some (decided, r.scene.machine)) : Ordered samples origin rest r := by
  have done := perform_of_judge verdict
  refine ordered_first ?_ (congrArg Core.machine done).symm
  rw [done]
  rw [Core.performAll_overrides] at slot ⊢
  -- the slot differs from what was loaded, so an override has been stored
  split at slot
  next none => exact absurd slot taken
  next some =>
    rw [if_neg some]
    exact slot

/-- A tick that wins its exchange stands at the exchange, behind overrides that stored what it
had loaded. -/
theorem ordered_exchanged {decided : Step} (current : r.slot = origin.slot)
    (slot : r.slot = (origin.performAll (overrides rest)).slot)
    (verdict : (r.reading samples).judge origin.machine origin.slot =
      some (decided, r.scene.machine)) (phase : Phase) :
    Ordered samples origin rest
      { r with
        scene := { r.scene with shared := { r.scene.shared with slot := ⟨decided.next⟩ } }
        phase := phase } := by
  have done := perform_of_judge verdict
  have unmoved := Core.overrides_unmoved (slot.symm.trans current)
  exact ⟨overrides rest, [], (List.append_nil _).symm, unmoved, done.symm⟩

/-- The next action of a tick in progress keeps track of the tick. -/
theorem Underway.act (underway : Underway samples origin rest r) (busy : ¬ r.Idle) :
    Underway samples origin rest (r.act samples) := by
  have acts := acts_act samples r
  generalize r.act samples = r' at acts ⊢
  cases acts with
  | load idle => exact absurd idle busy
  | pointerLost stage lost =>
    simp only [Underway, stage] at underway
    exact ordered_skipped underway.2 (by simp [Race.reading, Reading.height, lost])
  | aim stage got =>
    simp only [Underway, stage] at underway
    exact ⟨underway.1, underway.2, got⟩
  | skip stage off =>
    simp only [Underway, stage] at underway
    obtain ⟨-, core, got⟩ := underway
    exact ordered_skipped core (by simp [Race.reading, Reading.height, got, off, Except.toOption])
  | place stage on =>
    simp only [Underway, stage] at underway
    obtain ⟨current, core, got⟩ := underway
    refine ⟨current, core, ?_⟩
    simp [Race.reading, Reading.height, got, on, Except.toOption]
  | @judge current height stage =>
    simp only [Underway, stage] at underway
    obtain ⟨rfl, core, on⟩ := underway
    have machine : r.scene.machine = origin.machine := by
      rw [← Core.machine_overrides origin rest, ← core]
      rfl
    have judged : (r.reading samples).judge origin.machine origin.slot =
        some (r.scene.machine.observe origin.slot height (samples r.tick).now) := by
      rw [Reading.judge, on, machine]
      rfl
    exact ⟨rfl, congrArg Core.slot core, judged⟩
  | keep stage same =>
    simp only [Underway, stage] at underway
    obtain ⟨rfl, slot, verdict⟩ := underway
    exact ordered_kept same slot verdict
  | yield stage moves taken =>
    simp only [Underway, stage] at underway
    obtain ⟨rfl, slot, verdict⟩ := underway
    exact ordered_yielded taken slot verdict
  | @exchange decided exchanges =>
    simp only [Underway, exchanges.1] at underway
    obtain ⟨current, slot, verdict⟩ := underway
    have ordered := ordered_exchanged current slot verdict
    cases committed : decided.committed with
    | true => exact ordered _
    | false => exact ordered _
  | announce stage =>
    simp only [Underway, stage] at underway
    exact underway

/-! ### The whole run -/

theorem Underway.after_sampler (underway : Underway samples origin rest r) :
    Underway samples origin (rest ++ [.sampler]) r := by
  have same : overrides (rest ++ [.sampler]) = overrides rest := by
    rw [overrides_append]
    exact List.append_nil _
  unfold Underway Ordered at underway ⊢
  rw [same]
  exact underway

theorem Underway.ordered (underway : Underway samples origin rest r) (idle : r.Idle) :
    Ordered samples origin rest r := by
  rcases idle with ready | ⟨outcome, done⟩
  · simp only [Underway, ready] at underway
  · simp only [Underway, done] at underway
    exact underway

variable {front moves : List Move} {ops : List Op}

/-- Every tick in progress is kept track of from its first action on. -/
theorem InTick.underway (inTick : InTick samples start front rest) :
    Underway samples (start.run samples front).scene.core rest
      (start.run samples (front ++ .sampler :: rest)) := by
  induction rest using List.reverseRecOn with
  | nil =>
    rw [run_append]
    exact underway_load inTick.begun
  | append_singleton rest move ih =>
    have before := ih inTick.shorter
    have busy := inTick.shorter.busy rest (List.prefix_rfl)
    rw [← List.cons_append, ← List.append_assoc, run_append]
    by_cases other : move = .sampler
    · subst other
      exact (before.act busy).after_sampler
    · exact before.step other

variable (samples start) in
/-- `ops` is a serial order of `moves` that is right whenever no tick is in progress. -/
structure Tracked (moves : List Move) (ops : List Op) : Prop where
  serialized : Serialized samples start moves ops
  core : start.scene.core.performAll ops = (start.run samples moves).scene.core
  covered : ∀ part, part <+: moves → (start.run samples part).Idle →
    ∃ done, done <+: ops ∧ Serialized samples start part done ∧
      start.scene.core.performAll done = (start.run samples part).scene.core

theorem Tracked.between {move : Move} (tracked : Tracked samples start moves ops)
    (idle : (start.run samples moves).Idle) (other : move ≠ .sampler) :
    Tracked samples start (moves ++ [move]) (ops ++ overrides [move]) := by
  have serialized := tracked.serialized.between idle other
  have core : start.scene.core.performAll (ops ++ overrides [move]) =
      (start.run samples (moves ++ [move])).scene.core := by
    rw [Core.performAll_append, tracked.core, run_append]
    exact (core_step other).symm
  refine ⟨serialized, core, fun part within partIdle => ?_⟩
  rcases List.prefix_concat_iff.mp within with rfl | within
  · exact ⟨_, List.prefix_rfl, serialized, core⟩
  · obtain ⟨done, short, partSerialized, partCore⟩ := tracked.covered part within partIdle
    exact ⟨done, short.trans (List.prefix_append _ _), partSerialized, partCore⟩

theorem Tracked.tick (tracked : Tracked samples start front ops)
    (inTick : InTick samples start front rest)
    (ended : (start.run samples (front ++ .sampler :: rest ++ [.sampler])).Idle) :
    ∃ longer, Tracked samples start (front ++ .sampler :: rest ++ [.sampler]) longer := by
  have last : start.run samples (front ++ .sampler :: rest ++ [.sampler]) =
      (start.run samples (front ++ .sampler :: rest)).act samples := run_append _ _
  -- the tick has its place among the overrides by now; nothing before it is moved
  have acted := inTick.underway.act (inTick.busy rest List.prefix_rfl)
  rw [← last] at acted
  obtain ⟨earlier, later, split, unmoved, core⟩ := acted.ordered ended
  have serialized := tracked.serialized.tick inTick ended split
  have performed : start.scene.core.performAll (ops ++ earlier ++
      (start.run samples (front ++ .sampler :: rest ++ [.sampler])).op samples :: later) =
      (start.run samples (front ++ .sampler :: rest ++ [.sampler])).scene.core := by
    rw [Core.performAll_append, Core.performAll_append, tracked.core, unmoved,
      Core.performAll_cons, core]
  refine ⟨_, serialized, performed, fun part within partIdle => ?_⟩
  rcases List.prefix_concat_iff.mp within with rfl | within
  · exact ⟨_, List.prefix_rfl, serialized, performed⟩
  · obtain ⟨done, short, partSerialized, partCore⟩ :=
      tracked.covered part (inTick.prefix_front within partIdle) partIdle
    refine ⟨done, short.trans ?_, partSerialized, partCore⟩
    rw [List.append_assoc]
    exact List.prefix_append _ _

/-- Either no tick is in progress and everything is in order, or all before the tick is. -/
theorem tracked_run (samples : Nat → Sample) (idle : start.Idle) (moves : List Move) :
    ((start.run samples moves).Idle ∧ ∃ ops, Tracked samples start moves ops) ∨
    ∃ front rest ops, moves = front ++ .sampler :: rest ∧ InTick samples start front rest ∧
      Tracked samples start front ops := by
  -- a move outside a tick is put in order at once, one inside a tick when the tick ends
  induction moves using List.reverseRecOn with
  | nil =>
    refine .inl ⟨idle, [], .nil, rfl, fun part within _ => ?_⟩
    obtain rfl := List.prefix_nil.mp within
    exact ⟨[], List.prefix_rfl, .nil, rfl⟩
  | append_singleton moves move ih =>
    rcases ih with ⟨partIdle, ops, tracked⟩ | ⟨front, rest, ops, rfl, inTick, tracked⟩
    · by_cases other : move = .sampler
      · subst other
        refine .inr ⟨moves, [], ops, rfl, ⟨partIdle, fun part within => ?_⟩, tracked⟩
        obtain rfl := List.prefix_nil.mp within
        rw [run_append]
        exact not_idle_load partIdle
      · refine .inl ⟨?_, _, tracked.between partIdle other⟩
        rw [run_append]
        exact (idle_step other).mpr partIdle
    · by_cases ended : (start.run samples (front ++ .sampler :: rest ++ [move])).Idle
      · by_cases other : move = .sampler
        · subst other
          exact .inl ⟨ended, tracked.tick inTick ended⟩
        · rw [run_append] at ended
          exact absurd ((idle_step other).mp ended) (inTick.busy rest List.prefix_rfl)
      · refine .inr ⟨front, rest ++ [move], ops, by simp, inTick.concat ?_, tracked⟩
        simpa using ended

/-- Every run has a serial order of its ticks and overrides in which the slot and the machine
agree with it whenever no tick is in progress. While there is a receiver, a tick queues exactly
one request if its exchange succeeded on a committed step, and none otherwise. -/
theorem ticks_linearize (samples : Nat → Sample) (scene : Scene) (moves : List Move) :
    (∃ ops, Serialized samples (opening scene) moves ops ∧
      ∀ part, part <+: moves → ((opening scene).run samples part).Idle →
        ∃ done, done <+: ops ∧ Serialized samples (opening scene) part done ∧
          (done.foldl Op.perform scene).shared.slot.load =
            ((opening scene).run samples part).slot ∧
          (done.foldl Op.perform scene).machine =
            ((opening scene).run samples part).scene.machine) ∧
    ∀ front rest, front ++ .sampler :: rest ++ [.sampler] <+: moves →
      InTick samples (opening scene) front rest →
      ((opening scene).run samples (front ++ .sampler :: rest ++ [.sampler])).Idle →
      ((opening scene).run samples (front ++ .sampler :: rest)).scene.requests.receiving = true →
      (((opening scene).run samples front).Commits samples (.sampler :: rest ++ [.sampler]) →
        ((opening scene).run samples front).posted samples (.sampler :: rest ++ [.sampler]) =
          [.render]) ∧
      (¬ ((opening scene).run samples front).Commits samples (.sampler :: rest ++ [.sampler]) →
        ((opening scene).run samples front).posted samples (.sampler :: rest ++ [.sampler]) =
          []) := by
  have restated {ops : List Op} {part : List Move}
      (core : scene.core.performAll ops = ((opening scene).run samples part).scene.core) :
      (ops.foldl Op.perform scene).shared.slot.load = ((opening scene).run samples part).slot ∧
        (ops.foldl Op.perform scene).machine =
          ((opening scene).run samples part).scene.machine := by
    rw [← core_performAll] at core
    exact ⟨congrArg Core.slot core, congrArg Core.machine core⟩
  have idle : (opening scene).Idle := .inl rfl
  refine ⟨?_, fun front rest _ inTick ended receiving => inTick.posted ended receiving⟩
  rcases tracked_run samples idle moves with
    ⟨-, ops, tracked⟩ | ⟨front, rest, ops, rfl, inTick, tracked⟩
  · refine ⟨ops, tracked.serialized, fun part within idle => ?_⟩
    obtain ⟨done, short, serialized, core⟩ := tracked.covered part within idle
    exact ⟨done, short, serialized, restated core⟩
  · refine ⟨_, tracked.serialized.unfinished inTick, fun part within idle => ?_⟩
    obtain ⟨done, short, serialized, core⟩ :=
      tracked.covered part (inTick.prefix_front within idle) idle
    exact ⟨done, short.trans (List.prefix_append _ _), serialized, restated core⟩

theorem ticks_linearize_visit :
    (∃ ops done, Serialized visit (opening small) (disturbed 1 10) ops ∧ done <+: ops ∧
      (done.foldl Op.perform small).shared.slot.load = .hidden) ∧
    ((opening small).run visit (disturbed 1 4)).posted visit (List.replicate 6 .sampler) =
      [.render] := by
  have both := ticks_linearize visit small (disturbed 1 10)
  obtain ⟨⟨ops, serialized, covered⟩, counted⟩ := both
  obtain ⟨done, short, -, slot, -⟩ := covered (disturbed 1 10) List.prefix_rfl (by decide)
  have busy : ∀ part ∈ (List.replicate 4 Move.sampler).inits,
      ¬ ((opening small).run visit (disturbed 1 4 ++ .sampler :: part)).Idle := by decide
  have inTick : InTick visit (opening small) (disturbed 1 4) (List.replicate 4 .sampler) :=
    ⟨by decide, fun part within => busy part ((List.mem_inits part _).mpr within)⟩
  have commits : ((opening small).run visit (disturbed 1 4)).Commits visit
      (List.replicate 6 .sampler) :=
    ⟨List.replicate 4 .sampler, ⟨.conceal, .hidden, true⟩, by decide, by decide, rfl⟩
  have sent := counted (disturbed 1 4) (List.replicate 4 .sampler) (by decide) inTick (by decide)
    (by decide)
  exact ⟨⟨ops, done, serialized, short, slot.trans (by decide)⟩, sent.1 commits⟩

end Race

end EdgeReveal
