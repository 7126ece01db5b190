import EdgeReveal.Proofs.Sampling.Race

/-!
# Where a sample lies

Coordinates are signed words, edges may lie beyond them and thresholds are unsigned words. The one
subtraction that is done in words is done for points on the output only, and those are below its
top by less than its height. So nothing overflows, and heights and zones come out as they would
over the unbounded integers, for every rectangle and every pair of thresholds.
-/
namespace EdgeReveal

namespace Geometry

/-- The point is on the rectangle, over the unbounded integers. The right and the bottom edge
belong to the neighbours. -/
structure Covers (g : Geometry) (p : Position) : Prop where
  left : g.x.toInt ≤ p.x.toInt
  right : p.x.toInt < g.x.toInt + g.width.toInt
  top : g.y.toInt ≤ p.y.toInt
  bottom : p.y.toInt < g.y.toInt + g.height.toInt

/-- How far the point is below the top edge, over the unbounded integers. -/
def depth (g : Geometry) (p : Position) : Int := p.y.toInt - g.y.toInt

variable {g : Geometry} {p : Position}

theorem contains_iff : g.contains p = true ↔ g.Covers p := by
  simp only [contains, Bool.and_eq_true, decide_eq_true_eq]
  constructor
  · rintro ⟨⟨left, right⟩, top, bottom⟩
    exact ⟨left, right, top, bottom⟩
  · intro covers
    exact ⟨⟨covers.left, covers.right⟩, covers.top, covers.bottom⟩

theorem Covers.depth_nonneg (covers : g.Covers p) : 0 ≤ g.depth p := by
  have top := covers.top
  rw [depth]
  omega

theorem Covers.depth_lt (covers : g.Covers p) : g.depth p < g.height.toInt := by
  have bottom := covers.bottom
  rw [depth]
  omega

/-- A depth less than a height is a word. -/
theorem Covers.not_overflows (covers : g.Covers p) :
    BitVec.ssubOverflow p.y.toBitVec g.y.toBitVec = false := by
  -- from zero to a height, where both ends are words
  have low := covers.depth_nonneg
  have high := covers.depth_lt
  have word := g.height.toInt_lt
  rw [depth] at low high
  simp only [BitVec.ssubOverflow, Int32.toInt_toBitVec, Bool.or_eq_false_iff,
    decide_eq_false_iff_not]
  constructor <;> omega

theorem Covers.toInt_sub (covers : g.Covers p) : (p.y - g.y).toInt = g.depth p := by
  have fits : ¬ BitVec.ssubOverflow p.y.toBitVec g.y.toBitVec = true := by
    simp [covers.not_overflows]
  have exact := BitVec.toInt_sub_of_not_ssubOverflow fits
  rw [← Int32.toBitVec_sub] at exact
  exact exact

theorem relativeY_eq_some_iff {r : Int32} :
    g.relativeY p = some r ↔ (g.valid = true ∧ g.Covers p) ∧ r = p.y - g.y := by
  rw [relativeY, Option.ite_none_right_eq_some, Bool.and_eq_true, contains_iff,
    Option.some.injEq, eq_comm (a := r)]

end Geometry

/-- Which zone a height falls into, over the unbounded integers and whichever of the two
thresholds is the larger. -/
structure Thresholds.Assigns (t : Thresholds) (height : Int) (zone : Zone) : Prop where
  reveal : zone = .reveal ↔ height ≤ t.hidden.toNat
  conceal : zone = .conceal ↔ max (t.hidden.toNat : Int) t.visible.toNat < height
  neutral : zone = .neutral ↔ ¬ height ≤ t.hidden.toNat ∧
    ¬ max (t.hidden.toNat : Int) t.visible.toNat < height

theorem Thresholds.assigns_classify (t : Thresholds) (height : Int32) :
    t.Assigns height.toInt (t.classify height) := by
  unfold classify
  split
  next reveals =>
    constructor <;> simp <;> omega
  next above =>
    split
    next conceals => constructor <;> simp <;> omega
    next neutral => constructor <;> simp <;> omega

namespace Sampler

variable {sample : Sample} {scene : Scene} {p : Position} {r : Int32}

theorem place_of_relativeY {cache : GeometryCache} (on : cache.held.relativeY p = some r) :
    place cache p = .ok r := by
  have valid := (Geometry.relativeY_eq_some_iff.mp on).1.1
  simp only [place, GeometryCache.read, valid, if_true, on]

/-- With no other actor in between, what a tick has judged is what it comes to. -/
theorem outcome_finishJudged (scene : Scene) (decided : Step) :
    (finishJudged scene scene.shared.slot.load decided).1 = .observed decided := by
  unfold finishJudged
  split
  next => rfl
  next => rw [Slot.exchange_of_eq decided.next rfl]

theorem outcome_tick (got : sample.pointer = some p)
    (on : scene.shared.geometry.held.relativeY p = some r) :
    (tick sample scene).1 =
      .observed (scene.machine.observe scene.shared.slot.load r sample.now).1 := by
  have placed := place_of_relativeY on
  simp only [tick, finish, finishLoaded, got, finishAimed, placed, finishPlaced]
  exact outcome_finishJudged { scene with machine := _ } _

end Sampler

namespace Race

variable {samples : Nat → Sample} {r : Race} {others : List Move}

/-- A sample that has a place is judged by the sampler's next action but one, whatever the others
do before it. -/
theorem judged_of_aimed {current : Visibility} {p : Position} {height : Int32}
    (stage : r.phase = .aimed current p)
    (on : r.scene.shared.geometry.held.relativeY p = some height) (absent : .sampler ∉ others) :
    ∃ step, ((r.act samples).run samples (others ++ [.sampler])).phase = .judged current step ∧
      step.zone = r.scene.machine.thresholds.classify height := by
  have placed : (r.act samples).phase = .placed current height ∧
      (r.act samples).scene.machine = r.scene.machine := by
    rw [act_of_aimed stage, Sampler.place_of_relativeY on]
    exact ⟨rfl, rfl⟩
  -- the height is the tick's own by now, so an output that moves meanwhile comes too late
  obtain ⟨phase, machine⟩ := run_frame samples (r.act samples) absent
  rw [run_append, run_cons, run_nil]
  refine ⟨_, congrArg Race.phase (act_of_placed (phase.trans placed.1)), ?_⟩
  rw [Machine.observe_zone, machine, placed.2]

end Race

/-- A point has a height exactly if it is on a known output, over the unbounded integers. The
height then is the exact depth below the top edge, less than the output's own height, and the
subtraction of the two words does not overflow. Every tick that looks the point up, be it on its
own or with others acting in between, judges it by the exact depth, for thresholds of any size and
in any order. -/
theorem classified_by_depth (g : Geometry) (p : Position) :
    ((g.relativeY p).isSome = true ↔ g.valid = true ∧ g.Covers p) ∧
    ∀ height, g.relativeY p = some height →
      (height.toInt = g.depth p ∧ 0 ≤ g.depth p ∧ g.depth p < g.height.toInt ∧
        BitVec.ssubOverflow p.y.toBitVec g.y.toBitVec = false) ∧
      (∀ sample scene, sample.pointer = some p → scene.shared.geometry.held = g →
        ∃ step, (Sampler.tick sample scene).1 = .observed step ∧
          scene.machine.thresholds.Assigns (g.depth p) step.zone) ∧
      ∀ samples (r : Race) current, r.phase = .aimed current p → r.scene.shared.geometry.held = g →
        ∀ others, .sampler ∉ others →
          ∃ step, ((r.act samples).run samples (others ++ [.sampler])).phase =
              .judged current step ∧
            r.scene.machine.thresholds.Assigns (g.depth p) step.zone := by
  constructor
  · rw [Option.isSome_iff_exists]
    constructor
    · rintro ⟨height, on⟩
      exact (Geometry.relativeY_eq_some_iff.mp on).1
    · intro there
      exact ⟨_, Geometry.relativeY_eq_some_iff.mpr ⟨there, rfl⟩⟩
  · intro height on
    obtain ⟨⟨-, covers⟩, same⟩ := Geometry.relativeY_eq_some_iff.mp on
    have exact : height.toInt = g.depth p := by
      rw [same]
      exact covers.toInt_sub
    -- either kind of tick has its zone from `classify`, at the height that is the exact depth
    refine ⟨⟨exact, covers.depth_nonneg, covers.depth_lt, covers.not_overflows⟩, ?_, ?_⟩
    · intro sample scene got held
      subst held
      refine ⟨_, Sampler.outcome_tick got on, ?_⟩
      rw [Machine.observe_zone, ← exact]
      exact scene.machine.thresholds.assigns_classify height
    · intro samples r current stage held others absent
      subst held
      obtain ⟨step, judged, zone⟩ := Race.judged_of_aimed stage on absent
      refine ⟨step, judged, ?_⟩
      rw [zone, ← exact]
      exact r.scene.machine.thresholds.assigns_classify height

/-- An output at the top right of all coordinates that reaches beyond them. -/
def outermost : Geometry where
  x := 2147483647
  y := -2147483648
  width := 2147483647
  height := 2147483647
  valid := true

/-- The sampler on that output. Its revealing band has no end, although the other threshold is
zero. -/
def towering (phase : Phase) : Race where
  scene :=
    { shared := { geometry := ⟨outermost⟩ }
      machine := .create { thresholdHidden := 4294967295, thresholdVisible := 0 } 0 }
  phase := phase

/-- The lowest point of the output is as deep as a point can be, and still reveals the panel. -/
theorem classified_by_depth_outermost :
    outermost.relativeY ⟨2147483647, -2⟩ = some 2147483646 ∧
    outermost.depth ⟨2147483647, -2⟩ = 2147483646 ∧
    (∃ step, (Sampler.tick ⟨0, some ⟨2147483647, -2⟩⟩ (towering .ready).scene).1 =
      .observed step ∧ step.zone = .reveal) ∧
    ∃ step, (((towering (.aimed .visible ⟨2147483647, -2⟩)).act Race.visit).run Race.visit
      [.override "workspacev2", .sampler]).phase = .judged .visible step ∧
        step.zone = .reveal := by
  have on : outermost.relativeY ⟨2147483647, -2⟩ = some 2147483646 := by decide
  obtain ⟨⟨exact, -⟩, ticks, races⟩ :=
    (classified_by_depth outermost ⟨2147483647, -2⟩).2 2147483646 on
  have depth : outermost.depth ⟨2147483647, -2⟩ = 2147483646 := exact.symm
  have shallow : outermost.depth ⟨2147483647, -2⟩ ≤ 4294967295 := by
    rw [depth]
    decide
  obtain ⟨step, observed, assigned⟩ :=
    ticks ⟨0, some ⟨2147483647, -2⟩⟩ (towering .ready).scene rfl rfl
  obtain ⟨step', judged, assigned'⟩ := races Race.visit
    (towering (.aimed .visible ⟨2147483647, -2⟩)) .visible rfl rfl [.override "workspacev2"]
    (by decide)
  exact ⟨on, depth, ⟨step, observed, assigned.reveal.mpr shallow⟩,
    step', judged, assigned'.reveal.mpr shallow⟩

end EdgeReveal
