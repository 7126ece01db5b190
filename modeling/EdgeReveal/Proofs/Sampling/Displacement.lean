import EdgeReveal.Proofs.Sampling.Placement
import EdgeReveal.Proofs.Sampling.Stutter
import Mathlib.Data.List.Forall2

/-!
# Runs displaced in space and time

Two runs of the sampler, with the same settings, among actors that do the same at the same moments,
but on outputs that lie elsewhere and with clocks that read differently.
-/
namespace EdgeReveal

/-- The second point lies on the second output as the first one does on the first: either output is
known if the other is, the points are on their outputs or off them together, and where they are on
them both have been moved up or down by the same offset. -/
structure Geometry.Displaced (g g' : Geometry) (p p' : Position) : Prop where
  valid : g'.valid = g.valid
  on : g.valid = true → g'.contains p' = g.contains p
  offset : g.valid = true → g.contains p = true →
    p'.y.toInt - p.y.toInt = g'.y.toInt - g.y.toInt

instance (g g' : Geometry) (p p' : Position) : Decidable (g.Displaced g' p p') :=
  decidable_of_iff (g'.valid = g.valid ∧ (g.valid = true → g'.contains p' = g.contains p) ∧
      (g.valid = true → g.contains p = true → p'.y.toInt - p.y.toInt = g'.y.toInt - g.y.toInt))
    ⟨fun ⟨valid, on, offset⟩ => ⟨valid, on, offset⟩,
      fun displaced => ⟨displaced.valid, displaced.on, displaced.offset⟩⟩

namespace Geometry

variable {g g' : Geometry} {p p' : Position}

theorem Displaced.relativeY (displaced : Displaced g g' p p') :
    g'.relativeY p' = g.relativeY p := by
  unfold Geometry.relativeY
  rw [displaced.valid]
  by_cases there : g.valid = true ∧ g.contains p = true
  · obtain ⟨valid, on⟩ := there
    have on' := displaced.on valid
    have offset := displaced.offset valid on
    rw [on] at on'
    have depth := (contains_iff.mp on).toInt_sub
    have depth' := (contains_iff.mp on').toInt_sub
    -- both differences are exact, so they can be compared as integers
    have same : p'.y - g'.y = p.y - g.y := by
      apply Int32.toInt_inj.mp
      rw [depth, depth', Geometry.depth, Geometry.depth]
      omega
    rw [on, on', same]
  · by_cases valid : g.valid = true
    · rw [displaced.on valid]
      have off : g.contains p = false := by
        simpa [valid] using there
      simp [off]
    · simp [valid]

theorem Displaced.place {cache cache' : GeometryCache}
    (displaced : Displaced cache.held cache'.held p p') :
    Sampler.place cache' p' = Sampler.place cache p := by
  unfold Sampler.place GeometryCache.read
  rw [displaced.valid]
  by_cases valid : cache.held.valid = true
  · simp only [valid, if_true, displaced.relativeY]
  · simp [valid]

end Geometry

/-- The same machine, but for a timer that was read off another clock. -/
structure Machine.Displaced (shift : Int) (m m' : Machine) : Prop where
  delayed : m.Delayed
  timer : (m'.timer : Int) = m.timer + shift
  rest : m' = { m with timer := m'.timer }

namespace Machine

variable {shift : Int} {m m' : Machine} {now now' : Nat}

theorem displaced_create (settings : Settings) {origin origin' : Nat}
    (clock : (origin' : Int) = origin + shift) :
    Displaced shift (create settings origin) (create settings origin') :=
  ⟨(tuned_create settings origin).delayed, clock, rfl⟩

theorem Displaced.delayed_other (displaced : Displaced shift m m') : m'.Delayed := by
  rw [displaced.rest]
  exact ⟨displaced.delayed.showDelay_pos, displaced.delayed.hideDelay_pos⟩

theorem Displaced.counted (displaced : Displaced shift m m') (height : Int32) :
    Displaced shift (m.counted height) (m'.counted height) := by
  obtain ⟨⟨showDelay_pos, hideDelay_pos⟩, timer, rest⟩ := displaced
  rw [rest]
  unfold Machine.counted
  dsimp only
  cases m.thresholds.classify height with
  | reveal | neutral | conceal => exact ⟨⟨showDelay_pos, hideDelay_pos⟩, timer, rfl⟩

theorem Displaced.restart (displaced : Displaced shift m m')
    (clock : (now' : Int) = now + shift) :
    Displaced shift { m with timer := now } { m' with timer := now' } := by
  refine ⟨⟨displaced.delayed.showDelay_pos, displaced.delayed.hideDelay_pos⟩, clock, ?_⟩
  rw [displaced.rest]

theorem Displaced.arms (displaced : Displaced shift m m') (current : Visibility) (zone : Zone) :
    m'.arms current zone = m.arms current zone := by
  rw [displaced.rest]
  cases zone with
  | reveal | neutral | conceal => rfl

theorem Displaced.settles (displaced : Displaced shift m m') (clock : (now' : Int) = now + shift)
    (v : Visibility) : m'.settles v now' = m.settles v now := by
  -- the shift cancels, and where a clock has gone back neither of them lets any time pass
  have elapsed : now' - m'.timer = now - m.timer := by
    have timer := displaced.timer
    omega
  rw [displaced.rest]
  cases v with
  | visible | hidden => rfl
  | pendingVisible | pendingHidden => simp only [Machine.settles, elapsed]

/-- Only the difference between the time and the timer is ever looked at. -/
theorem Displaced.observe (displaced : Displaced shift m m') (clock : (now' : Int) = now + shift)
    (current : Visibility) (height : Int32) :
    (m'.observe current height now').1 = (m.observe current height now).1 ∧
      Displaced shift (m.observe current height now).2 (m'.observe current height now').2 := by
  have zone : m'.thresholds.classify height = m.thresholds.classify height := by
    rw [displaced.rest]
  have counted := displaced.counted height
  have arms' := counted.arms current (m'.thresholds.classify height)
  have settles' := counted.settles clock current
  rw [zone] at arms'
  rcases observe_cases displaced.delayed current height now with
    ⟨pending, arms, eq⟩ | ⟨quiet, settled, due, eq⟩ | ⟨quiet, early, eq⟩
  · rw [eq, observe_of_arms displaced.delayed_other (by rw [zone, arms', arms]), zone]
    exact ⟨rfl, counted.restart clock⟩
  · rw [eq, observe_of_settles (by rw [zone, arms', quiet]) (settles'.trans due), zone]
    exact ⟨rfl, counted⟩
  · rw [eq, observe_of_quiet (by rw [zone, arms', quiet]) (settles'.trans early), zone]
    exact ⟨rfl, counted⟩

end Machine

/-- Two ticks at the same action that have found out the same; only the pointers may differ. -/
inductive Phase.Abreast : Phase → Phase → Prop
  | same (phase : Phase) : Abreast phase phase
  | aimed (current : Visibility) (p p' : Position) :
      Abreast (.aimed current p) (.aimed current p')

/-- The same move, unless it writes the geometry cache. -/
inductive Move.Abreast : Move → Move → Prop
  | same (move : Move) : Abreast move move
  | cache (written written' : GeometryCache) : Abreast (.cache written) (.cache written')

instance : Std.Refl Move.Abreast := ⟨.same⟩

/-- The pointer queries of the two runs succeed and fail together, and their clocks differ by a
constant. -/
structure Sample.Displaced (shift : Int) (sample sample' : Sample) : Prop where
  clock : (sample'.now : Int) = sample.now + shift
  answered : sample'.pointer.isSome = sample.pointer.isSome

namespace Race

/-- Two runs at the same action of the same tick, with the same slot and the same queue. -/
structure Abreast (shift : Int) (r r' : Race) : Prop where
  slot : r'.scene.shared.slot = r.scene.shared.slot
  machine : Machine.Displaced shift r.scene.machine r'.scene.machine
  requests : r'.scene.requests = r.scene.requests
  tick : r'.tick = r.tick
  phase : Phase.Abreast r.phase r'.phase

/-- The pointer that the tick in progress is about to look up. -/
def sought (r : Race) : Option Position :=
  match r.phase with
  | .aimed _ p => some p
  | _ => none

/-- When both runs are about to look their pointers up, what they find is displaced. -/
def FindsDisplaced (r r' : Race) : Prop :=
  ∀ p ∈ r.sought, ∀ p' ∈ r'.sought,
    Geometry.Displaced r.scene.shared.geometry.held r'.scene.shared.geometry.held p p'

instance (r r' : Race) : Decidable (FindsDisplaced r r') :=
  inferInstanceAs (Decidable (∀ p ∈ r.sought, ∀ p' ∈ r'.sought, _))

variable {samples samples' : Nat → Sample} {shift : Int} {r r' : Race} {move move' : Move}

/-! ### One action of the sampler -/

theorem Abreast.slot_eq (abreast : Abreast shift r r') : r'.slot = r.slot := by
  rw [Race.slot, Race.slot, abreast.slot]

theorem Abreast.load (abreast : Abreast shift r r') (idle : r.Idle) (idle' : r'.Idle)
    (next : r'.next = r.next) : Abreast shift (r.act samples) (r'.act samples') := by
  rw [act_of_idle idle, act_of_idle idle', abreast.slot_eq]
  exact ⟨abreast.slot, abreast.machine, abreast.requests, next, .same _⟩

/-- The geometries and the pointers matter here alone, and only by where they put the sample. -/
theorem Abreast.lookUp {current : Visibility} {p p' : Position} (abreast : Abreast shift r r')
    (stage : r.phase = .aimed current p) (stage' : r'.phase = .aimed current p')
    (finds : FindsDisplaced r r') : Abreast shift (r.act samples) (r'.act samples') := by
  have found := finds p (by simp [sought, stage]) p' (by simp [sought, stage'])
  rw [act_of_aimed stage, act_of_aimed stage', found.place]
  exact ⟨abreast.slot, abreast.machine, abreast.requests, abreast.tick, .same _⟩

theorem Abreast.act (abreast : Abreast shift r r')
    (sampled : ∀ n, Sample.Displaced shift (samples n) (samples' n))
    (finds : FindsDisplaced r r') : Abreast shift (r.act samples) (r'.act samples') := by
  have kept := abreast.slot
  have machine := abreast.machine
  have requests := abreast.requests
  have tick := abreast.tick
  have phases := abreast.phase
  -- both runs are at the same action, so one case for each phase
  generalize stage : r.phase = phase at phases
  generalize stage' : r'.phase = phase' at phases
  cases phases with
  | aimed current p p' => exact abreast.lookUp stage stage' finds
  | same =>
    cases phase with
    | ready =>
      refine abreast.load (.inl stage) (.inl stage') ?_
      rw [next, next, upcoming, upcoming, stage, stage', tick]
    | done outcome =>
      refine abreast.load (.inr ⟨_, stage⟩) (.inr ⟨_, stage'⟩) ?_
      rw [next_of_done stage, next_of_done stage', tick]
    | loaded current =>
      have answered := (sampled r.tick).answered
      rw [act_of_loaded stage, act_of_loaded stage', tick]
      refine ⟨kept, machine, requests, rfl, ?_⟩
      cases asked : (samples r.tick).pointer with
      | none =>
        rw [asked, Option.isSome_none, Option.isSome_eq_false_iff, Option.isNone_iff_eq_none]
          at answered
        rw [answered]
        exact .same _
      | some p =>
        rw [asked, Option.isSome_some, Option.isSome_iff_exists] at answered
        obtain ⟨p', asked'⟩ := answered
        rw [asked']
        exact .aimed current p p'
    | aimed current p => exact abreast.lookUp stage stage' finds
    | placed current height =>
      obtain ⟨step, observed⟩ := machine.observe (sampled r.tick).clock current height
      rw [act_of_placed stage, act_of_placed stage', tick]
      refine ⟨kept, observed, requests, rfl, ?_⟩
      rw [step]
      exact .same _
    | judged current decided =>
      -- the slots are equal, so either both exchanges succeed or neither does
      rw [act_of_judged stage, act_of_judged stage', abreast.slot_eq]
      split
      next => exact ⟨kept, machine, requests, tick, .same _⟩
      next =>
        split
        next => exact ⟨rfl, machine, requests, tick, .same _⟩
        next => exact ⟨kept, machine, requests, tick, .same _⟩
    | announcing decided =>
      rw [act_of_announcing stage, act_of_announcing stage']
      refine ⟨kept, machine, ?_, tick, .same _⟩
      rw [requests]

/-! ### Whole runs -/

theorem Abreast.step (abreast : Abreast shift r r')
    (sampled : ∀ n, Sample.Displaced shift (samples n) (samples' n))
    (finds : FindsDisplaced r r') (moves : Move.Abreast move move') :
    Abreast shift (r.step samples move) (r'.step samples' move') := by
  have kept := abreast.slot
  have machine := abreast.machine
  have requests := abreast.requests
  have tick := abreast.tick
  have phases := abreast.phase
  cases moves with
  | cache written written' => exact ⟨kept, machine, requests, tick, phases⟩
  | same =>
    cases move with
    | sampler => exact abreast.act sampled finds
    | override event => exact ⟨rfl, machine, requests, tick, phases⟩
    | cache written => exact ⟨kept, machine, requests, tick, phases⟩
    | mailbox left => exact ⟨kept, machine, rfl, tick, phases⟩

theorem Abreast.run {moves moves' : List Move} (abreast : Abreast shift r r')
    (sampled : ∀ n, Sample.Displaced shift (samples n) (samples' n))
    (alike : List.Forall₂ Move.Abreast moves moves')
    (finds : ∀ n, FindsDisplaced (r.run samples (moves.take n)) (r'.run samples' (moves'.take n)))
    (n : Nat) : Abreast shift (r.run samples (moves.take n)) (r'.run samples' (moves'.take n)) := by
  -- on the moves of both runs; what is found later is found by the runs that start a move later
  induction alike generalizing r r' n with
  | nil =>
    rw [List.take_nil]
    exact abreast
  | cons first rest ih =>
    cases n with
    | zero => exact abreast
    | succ n =>
      have stepped := abreast.step sampled (finds 0) first
      exact ih stepped (fun n => finds (n + 1)) n

theorem Abreast.outcome_eq (abreast : Abreast shift r r') : r'.outcome? = r.outcome? := by
  have phases := abreast.phase
  unfold outcome?
  generalize r.phase = phase at phases ⊢
  generalize r'.phase = phase' at phases ⊢
  cases phases with
  | same => rfl
  | aimed => rfl

/-- What the sampler decides depends on nothing but heights below the top edge and differences of
times. Take two runs with the same settings, each on a machine just created, among actors that make
the same moves but for the geometries they write. If the clocks differ by a constant, the pointer
queries succeed and fail together, and whatever the ticks look up is displaced, each time by an
offset of its own, then at every moment both runs are in the same tick, which has come to the same
if it is over, and they have the same slot, count and queue. -/
theorem decisions_invariant (settings : Settings) (shift : Int) (scene scene' : Scene)
    (origin origin' : Nat) (clock : (origin' : Int) = origin + shift)
    (created : scene.machine = .create settings origin)
    (created' : scene'.machine = .create settings origin')
    (slot : scene'.shared.slot = scene.shared.slot) (requests : scene'.requests = scene.requests)
    (samples samples' : Nat → Sample)
    (sampled : ∀ n, Sample.Displaced shift (samples n) (samples' n))
    (moves moves' : List Move) (alike : List.Forall₂ Move.Abreast moves moves')
    (finds : ∀ n, FindsDisplaced ((opening scene).run samples (moves.take n))
      ((opening scene').run samples' (moves'.take n)))
    (n : Nat) (r r' : Race) (here : r = (opening scene).run samples (moves.take n))
    (here' : r' = (opening scene').run samples' (moves'.take n)) :
    r'.tick = r.tick ∧ r'.outcome? = r.outcome? ∧ r'.slot = r.slot ∧
      r'.scene.machine.count = r.scene.machine.count ∧
      r'.scene.requests = r.scene.requests := by
  -- at first no tick is in progress, and the timers show when their machines were created
  have begun : Abreast shift (opening scene) (opening scene') := by
    refine ⟨slot, ?_, requests, rfl, .same _⟩
    rw [opening, opening, created, created']
    exact Machine.displaced_create settings clock
  have abreast : Abreast shift r r' := by
    rw [here, here']
    exact begun.run sampled alike finds n
  refine ⟨abreast.tick, abreast.outcome_eq, abreast.slot_eq, ?_, abreast.requests⟩
  rw [abreast.machine.rest]

/-- An output that lies lower and to the left of `small`, is narrower and higher and has a name. -/
def lower (y : Int32) : GeometryCache :=
  ⟨{ x := -60, y := y, width := 30, height := 300, label := "DP-2", valid := true }⟩

/-- `visit` on that output, by a clock that is five milliseconds ahead. -/
def visitLower (n : Nat) : Sample :=
  ⟨(visit n).now + milliseconds 5, (visit n).pointer.map fun p => ⟨p.x - 60, p.y + 1000⟩⟩

/-- An override, a tick, a change of the output and another tick. -/
def relocated (left : GeometryCache) : List Move :=
  .override "workspacev2" :: List.replicate 5 .sampler ++ .cache left :: List.replicate 6 .sampler

/-- Both runs hide the panel in their second tick and ask for it to be drawn. -/
theorem decisions_invariant_lower :
    let scene : Scene := { shared := { geometry := lower 1000 }, machine := .create {} 5000000 }
    let r := (opening scene).run visitLower (relocated (lower 990))
    r.outcome? = some (.observed ⟨.conceal, .hidden, true⟩) ∧ r.slot = .hidden ∧
      r.scene.machine.count = 0 ∧ r.scene.requests.queue = [.render] := by
  intro scene r
  let moves := relocated ⟨{ y := -10, width := 100, height := 200, valid := true }⟩
  let moves' := relocated (lower 990)
  have alike : List.Forall₂ Move.Abreast moves moves' := by
    apply List.rel_append
    · exact List.forall₂_refl _
    · exact .cons (.cache _ _) (List.forall₂_refl _)
  have sampled (n : Nat) : Sample.Displaced (milliseconds 5) (visit n) (visitLower n) :=
    ⟨by simp [visitLower], by simp [visitLower]⟩
  have early : ∀ n < 14, FindsDisplaced ((opening small).run visit (moves.take n))
      ((opening scene).run visitLower (moves'.take n)) := by
    decide
  have finds (n : Nat) : FindsDisplaced ((opening small).run visit (moves.take n))
      ((opening scene).run visitLower (moves'.take n)) := by
    -- after the thirteen moves nothing changes any more
    by_cases within : n < 14
    · exact early n within
    · have ended := early 13 (by decide)
      rw [List.take_of_length_le (show moves.length ≤ n by simp [moves, relocated]; omega),
        List.take_of_length_le (show moves'.length ≤ n by simp [moves', relocated]; omega)]
      exact ended
  obtain ⟨-, outcome, slot, count, requests⟩ := decisions_invariant {} (milliseconds 5) small scene
    0 5000000 (by decide) rfl rfl rfl rfl visit visitLower sampled moves moves' alike finds 13
    _ r rfl rfl
  refine ⟨outcome.trans (by decide), slot.trans (by decide), count.trans (by decide), ?_⟩
  rw [requests]
  decide

end Race

end EdgeReveal
