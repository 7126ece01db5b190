import EdgeReveal.Proofs.Dispatch.Runtime

/-!
# No settled visibility is left undrawn

Whoever makes the slot settled also sees to a later rendering: the sampler
announces a committed step, and the dispatcher renders at the end of a batch
with an override in it. A rendering reads the slot when it happens, so either
one is still to come, or what the sink was told last is what the slot holds.
-/
namespace EdgeReveal

/-- The dispatcher will read the slot before it waits again. -/
def Stage.Draws : Stage → Prop
  | .starting | .loading _ => True
  | .draining batch => ∃ request ∈ batch, request.draws = true
  | .processing due rest => due = true ∨ ∃ request ∈ rest, request.draws = true
  | .waiting | .applying _ _ | .stopped => False

/-- The dispatcher is on its way out. -/
def Stage.Leaves : Stage → Prop
  | .stopped | .loading .stop | .applying _ .stop => True
  | .starting | .waiting | .draining _ | .processing _ _ | .loading .proceed
  | .applying _ .proceed => False

namespace Runtime

variable {σ γ : Type} {samples : Nat → Sample} {settings : Settings} {rt : Runtime σ γ}

/-- A rendering is still to come, for whatever the slot holds by then. -/
inductive Due (rt : Runtime σ γ) : Prop
  | announcing {decided : Step} (stage : rt.race.phase = .announcing decided)
  | queued {request : Request} (within : request ∈ rt.requests.queue)
      (draws : request.draws = true)
  | begun (draws : rt.stage.Draws)

/-- The sink has been told last, or is being told, what the slot holds. -/
def Current (rt : Runtime σ γ) : Prop :=
  match rt.stage with
  | .applying state _ => state = rt.slot
  | .starting | .waiting | .draining _ | .processing _ _ | .loading _ | .stopped =>
    rt.calls.getLast? = some (.of rt.slot)

/-- What every turn preserves. -/
structure Kept (settings : Settings) (samples : Nat → Sample) (rt : Runtime σ γ) : Prop where
  sound : rt.race.Sound settings samples
  receiving : rt.stage.Leaves ∨ rt.requests.receiving = true
  settled : rt.slot.isPending = false → Due rt ∨ Current rt ∨ rt.stage.Leaves

theorem current_iff (apart : ∀ state flow, rt.stage ≠ .applying state flow) :
    Current rt ↔ rt.calls.getLast? = some (.of rt.slot) := by
  unfold Current
  split
  next state flow stage => exact absurd stage (apart state flow)
  all_goals exact Iff.rfl

theorem Due.imp {rt' : Runtime σ γ} (due : Due rt) (phase : rt'.race.phase = rt.race.phase)
    (queued : ∀ request ∈ rt.requests.queue, request.draws = true → Due rt')
    (begun : rt.stage.Draws → Due rt') : Due rt' := by
  cases due with
  | announcing stage => exact .announcing (phase.trans stage)
  | queued within draws => exact queued _ within draws
  | begun draws => exact begun draws

theorem Due.stage {rt' : Runtime σ γ} (due : Due rt) (phase : rt'.race.phase = rt.race.phase)
    (queue : rt'.requests.queue = rt.requests.queue) (begun : rt.stage.Draws → Due rt') :
    Due rt' := by
  refine due.imp phase (fun request within draws => ?_) begun
  rw [← queue] at within
  exact .queued within draws

/-- A turn that calls no sink has only to keep what is due. -/
theorem Kept.carry {rt' : Runtime σ γ} (kept : Kept settings samples rt)
    (sound : rt'.race.Sound settings samples)
    (receiving : rt.requests.receiving = true → rt'.requests.receiving = true)
    (stays : ¬ rt.stage.Leaves) (apart : ∀ state flow, rt.stage ≠ .applying state flow)
    (apart' : ∀ state flow, rt'.stage ≠ .applying state flow) (slot : rt'.slot = rt.slot)
    (calls : rt'.calls = rt.calls) (due : Due rt → Due rt') : Kept settings samples rt' := by
  refine ⟨sound, .inr (receiving (kept.receiving.resolve_left stays)), fun settled => ?_⟩
  rw [slot] at settled
  rcases kept.settled settled with before | current | leaves
  · exact .inl (due before)
  · refine .inr (.inl ((current_iff apart').mpr ?_))
    rw [calls, slot]
    exact (current_iff apart).mp current
  · exact absurd leaves stays

/-! ### The sampler's turns -/

/-- An action of the sampler that leaves slot and queue alone, and announces nothing. -/
theorem Kept.advance {race : Race} (kept : Kept settings samples rt)
    (sound : race.Sound settings samples) (slot : race.slot = rt.slot)
    (requests : race.scene.requests = rt.requests)
    (silent : ∀ decided, rt.race.phase ≠ .announcing decided) :
    Kept settings samples { rt with race := race } := by
  refine ⟨sound, kept.receiving.imp_right fun receiving => ?_, fun settled => ?_⟩
  · exact (congrArg Mailbox.receiving requests).trans receiving
  · have same : ({ rt with race := race } : Runtime σ γ).slot = rt.slot := slot
    rw [same] at settled
    rcases kept.settled settled with due | current | leaves
    · left
      cases due with
      | announcing stage => exact absurd stage (silent _)
      | @queued request within draws =>
        have within : request ∈ race.scene.requests.queue := by
          rw [requests]
          exact within
        exact .queued within draws
      | begun draws => exact .begun draws
    · right
      left
      unfold Current at current ⊢
      rw [same]
      exact current
    · exact .inr (.inr leaves)

theorem Kept.sampler (kept : Kept settings samples rt) :
    Kept settings samples { rt with race := rt.race.act samples } := by
  have sound := kept.sound.act
  have acts := Race.acts_act samples rt.race
  generalize rt.race.act samples = race at acts sound ⊢
  cases acts with
  | load idle => exact kept.advance sound rfl rfl idle.not_announcing
  | pointerLost stage | aim stage | skip stage | place stage | judge stage | keep stage
  | yield stage =>
    exact kept.advance sound rfl rfl (by simp [stage])
  | @exchange decided exchanges =>
    refine ⟨sound, kept.receiving, fun settled => ?_⟩
    have settled : decided.next.isPending = false := settled
    -- only a committed step settles the slot, and then the announcement is still to come
    have committed := (kept.sound.judged _ _ exchanges.1).committed_of_settled exchanges.2 settled
    have announcing : (if decided.committed then Phase.announcing decided
        else .done (.observed decided)) = .announcing decided := if_pos committed
    exact .inl (.announcing announcing)
  | announce stage =>
    refine ⟨sound, ?_, fun settled => ?_⟩
    · rcases kept.receiving with leaves | receiving
      · exact .inl leaves
      · exact .inr ((Mailbox.receiving_post _ _).trans receiving)
    · rcases kept.receiving with leaves | receiving
      · exact .inr (.inr leaves)
      · have grown : (rt.requests.post .render).queue = rt.requests.queue ++ [.render] := by
          rw [Mailbox.queue_post, if_pos receiving]
        have within : Request.render ∈ (rt.requests.post .render).queue := by
          rw [grown]
          exact List.mem_append_right _ (List.mem_singleton_self _)
        exact .inl (.queued within rfl)

/-! ### The senders' turns -/

theorem Kept.mailbox {left : Mailbox Request} (kept : Kept settings samples rt)
    (grown : ∀ request ∈ rt.requests.queue, request ∈ left.queue)
    (receiving : left.receiving = rt.requests.receiving) :
    Kept settings samples { rt with race.scene.requests := left } := by
  refine ⟨kept.sound.step (.mailbox left), ?_, fun settled => ?_⟩
  · rcases kept.receiving with leaves | before
    · exact .inl leaves
    · exact .inr (receiving.trans before)
  · rcases kept.settled settled with due | told
    · exact .inl (due.imp rfl (fun _ within draws => .queued (grown _ within) draws)
        fun draws => .begun draws)
    · exact .inr told

theorem mem_post {box : Mailbox Request} {request : Request} (within : request ∈ box.queue)
    (sent : Request) : request ∈ (box.post sent).queue := by
  rw [Mailbox.queue_post]
  split
  · exact List.mem_append_left _ within
  · exact within

/-! ### The dispatcher's turns -/

variable [Sink σ] [GeometrySource γ]

theorem Kept.act (kept : Kept settings samples rt) : Kept settings samples rt.act := by
  have sound : rt.act.race.Sound settings samples := by
    obtain ⟨moves, ran⟩ := race_step samples rt .dispatcher
    change rt.act.race = _ at ran
    rw [ran]
    exact kept.sound.run moves
  have dispatches := dispatches_act rt
  generalize rt.act = rt' at dispatches sound ⊢
  cases dispatches with
  | start stage =>
    have stays : ¬ rt.stage.Leaves := by simp [stage, Stage.Leaves]
    exact ⟨sound, .inr (kept.receiving.resolve_left stays), fun _ => .inl (.begun trivial)⟩
  | @receive request rest stage queued =>
    -- what was queued is in the batch or still queued
    refine kept.carry sound id (by simp [stage, Stage.Leaves]) (by simp [stage]) (by simp) rfl rfl
      fun due => due.imp rfl (fun early within draws => ?_) (by simp [stage, Stage.Draws])
    rw [queued] at within
    rcases List.mem_cons.mp within with rfl | within
    · exact .begun ⟨_, List.mem_singleton_self _, draws⟩
    · exact .queued within draws
  | sleep => exact kept
  | close => exact ⟨sound, .inl trivial, fun _ => .inr (.inr trivial)⟩
  | @drain batch request rest stage queued =>
    refine kept.carry sound id (by simp [stage, Stage.Leaves]) (by simp [stage]) (by simp) rfl rfl
      fun due => due.imp rfl (fun early within draws => ?_) fun draws => ?_
    · rw [queued] at within
      rcases List.mem_cons.mp within with rfl | within
      · exact .begun ⟨_, List.mem_append_right _ (List.mem_singleton_self _), draws⟩
      · exact .queued within draws
    · rw [stage] at draws
      obtain ⟨early, within, draws⟩ := draws
      exact .begun ⟨early, List.mem_append_left _ within, draws⟩
  | begin stage empty =>
    refine kept.carry sound id (by simp [stage, Stage.Leaves]) (by simp [stage]) (by simp) rfl rfl
      fun due => due.stage rfl rfl fun draws => ?_
    rw [stage] at draws
    exact .begun (.inr draws)
  | @finish due stage =>
    have stays : ¬ rt.stage.Leaves := by simp [stage, Stage.Leaves]
    cases due with
    | true =>
      exact ⟨sound, .inr (kept.receiving.resolve_left stays), fun _ => .inl (.begun trivial)⟩
    | false =>
      exact kept.carry sound id stays (by simp [stage]) (by simp) rfl rfl
        fun due => due.stage rfl rfl (by simp [stage, Stage.Draws])
  | render stage | override stage =>
    have stays : ¬ rt.stage.Leaves := by simp [stage, Stage.Leaves]
    exact ⟨sound, .inr (kept.receiving.resolve_left stays), fun _ => .inl (.begun (.inl rfl))⟩
  | refresh stage =>
    refine kept.carry sound id (by simp [stage, Stage.Leaves]) (by simp [stage]) (by simp)
      (slot_become_refresh rt) rfl fun due => due.stage rfl rfl fun draws => ?_
    rw [stage] at draws
    refine .begun (draws.imp_right ?_)
    rintro ⟨request, within, draws⟩
    rcases List.mem_cons.mp within with rfl | within
    · cases draws
    · exact ⟨request, within, draws⟩
  | @shutdown due rest stage =>
    cases due <;> exact ⟨sound, .inl trivial, fun _ => .inr (.inr trivial)⟩
  | @load flow stage =>
    refine ⟨sound, ?_, fun _ => .inr (.inl rfl)⟩
    cases flow with
    | stop => exact .inl trivial
    | proceed => exact .inr (kept.receiving.resolve_left (by simp [stage, Stage.Leaves]))
  | @apply state flow stage =>
    cases flow with
    | stop => exact ⟨sound, .inl trivial, fun _ => .inr (.inr trivial)⟩
    | proceed =>
      have stays : ¬ rt.stage.Leaves := by simp [stage, Stage.Leaves]
      refine ⟨sound, .inr (kept.receiving.resolve_left stays), fun settled => ?_⟩
      -- if the slot has moved on since the load, another rendering is due
      rcases kept.settled settled with due | current | leaves
      · exact .inl (due.stage rfl rfl (by simp [stage, Stage.Draws]))
      · have current : state = rt.slot := by simpa [Current, stage] using current
        have told : (rt.calls ++ [Rendering.of state]).getLast? = some (.of rt.slot) := by
          rw [List.getLast?_concat, current]
        exact .inr (.inl told)
      · exact absurd leaves stays
  | rest => exact kept

theorem Kept.step (kept : Kept settings samples rt) (turn : Turn) :
    Kept settings samples (rt.step samples turn) := by
  cases turn with
  | sampler => exact kept.sampler
  | dispatcher => exact kept.act
  | send request =>
    exact kept.mailbox (fun _ within => mem_post within request) (Mailbox.receiving_post _ _)
  | leave => exact kept.mailbox (fun _ within => within) rfl

theorem Kept.run (kept : Kept settings samples rt) (turns : List Turn) :
    Kept settings samples (rt.run samples turns) := by
  induction turns generalizing rt with
  | nil => exact kept
  | cons turn turns ih => exact ih (kept.step turn)

theorem Reached.kept {sink : σ} (reached : Reached settings samples sink rt) :
    Kept settings samples rt := by
  obtain ⟨now, shared, queue, senders, source, output, turns, rfl⟩ := reached
  have sound : (boot settings now shared queue senders sink source output).race.Sound settings
      samples :=
    Reached.sound ⟨now, shared, queue, senders, source, output, [], rfl⟩
  have begins : (boot settings now shared queue senders sink source output).stage.Draws := trivial
  exact Kept.run ⟨sound, .inr rfl, fun _ => .inl (.begun begins)⟩ turns

/-- Whenever the dispatcher waits with nothing queued and no tick is in progress, the sink has
been told last what the slot holds, if that is a settled visibility. -/
theorem quiescent_drawn (settings : Settings) (samples : Nat → Sample) (sink : σ)
    (rt : Runtime σ γ) (reached : Reached settings samples sink rt)
    (waiting : rt.stage = .waiting) (empty : rt.requests.queue = []) (idle : rt.race.Idle)
    (settled : rt.slot.isPending = false) :
    rt.sink = rt.calls.foldl Sink.apply sink ∧
      rt.calls.getLast? = some ⟨rt.slot.shown, rt.slot⟩ := by
  refine ⟨reached.sink, ?_⟩
  rcases reached.kept.settled settled with due | current | leaves
  · exfalso
    cases due with
    | announcing stage => exact idle.not_announcing _ stage
    | queued within draws => simp [empty] at within
    | begun draws => simp [waiting, Stage.Draws] at draws
  · exact (current_iff (by simp [waiting])).mp current
  · simp [waiting, Stage.Leaves] at leaves

theorem quiescent_drawn_goingDown :
    ((quiet {}).run Race.visit goingDown).stage = .waiting ∧
    ((quiet {}).run Race.visit goingDown).requests.queue = [] ∧
    ((quiet {}).run Race.visit goingDown).race.Idle ∧
    ((quiet {}).run Race.visit goingDown).calls.getLast? = some ⟨false, .hidden⟩ := by
  have reached : Reached {} Race.visit {} ((quiet {}).run Race.visit goingDown) :=
    ⟨_, _, _, _, _, _, goingDown, rfl⟩
  have waiting : ((quiet {}).run Race.visit goingDown).stage = .waiting := by decide
  have empty : ((quiet {}).run Race.visit goingDown).requests.queue = [] := by decide
  have idle : ((quiet {}).run Race.visit goingDown).race.Idle := by decide
  have drawn := quiescent_drawn {} Race.visit {} ((quiet {}).run Race.visit goingDown) reached
    waiting empty idle (by decide)
  exact ⟨waiting, empty, idle, drawn.2⟩

end Runtime

end EdgeReveal
