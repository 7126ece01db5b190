import EdgeReveal.Proofs.Dispatch.Batches
import EdgeReveal.Proofs.Sampling.Race

/-!
# The dispatcher among other actors

The dispatcher runs one atomic action at a time beside the sampler and any
number of senders: it takes requests off the mailbox one by one, stores an
override, reads the slot and calls the sink in different actions. `Dispatches`
lists what one action of the dispatcher can do, and left to itself the
dispatcher does what `Dispatcher.handle` says.
-/
namespace EdgeReveal

/-- What the dispatcher does next. -/
inductive Stage where
  /-- Resolve the followed output for the first time. -/
  | starting
  | waiting
  /-- Take what else is queued. -/
  | draining (batch : List Request)
  | processing (due : Bool) (rest : List Request)
  /-- Read the slot, in order to render. -/
  | loading (flow : Flow)
  /-- Call the sink with what has been read. -/
  | applying (state : Visibility) (flow : Flow)
  | stopped
  deriving DecidableEq, Repr, Inhabited

/-- `calls` are the renderings that the sink has been given, oldest first. -/
structure Runtime (σ γ : Type) where
  race : Race
  sink : σ
  source : γ
  output : Option String := none
  stage : Stage := .starting
  calls : List Rendering := []

/-- Whose action comes next. -/
inductive Turn where
  | sampler
  | dispatcher
  | send (request : Request)
  /-- A sender goes away. -/
  | leave
  deriving DecidableEq, Repr

namespace Runtime

variable {σ γ : Type}

def requests (rt : Runtime σ γ) : Mailbox Request := rt.race.scene.requests

def slot (rt : Runtime σ γ) : Visibility := rt.race.slot

def dispatcher (rt : Runtime σ γ) : Dispatcher σ γ :=
  { sink := rt.sink, source := rt.source, output := rt.output, shared := rt.race.scene.shared }

/-- The dispatcher has become `d`; it has not called the sink. -/
def become (rt : Runtime σ γ) (d : Dispatcher σ γ) : Runtime σ γ :=
  { rt with source := d.source, output := d.output, race.scene.shared := d.shared }

/-- The receiver goes away with the dispatcher. -/
def close (rt : Runtime σ γ) : Runtime σ γ :=
  { rt with stage := .stopped, race.scene.requests := rt.requests.dropReceiver }

def resume (rt : Runtime σ γ) : Flow → Runtime σ γ
  | .proceed => { rt with stage := .waiting }
  | .stop => rt.close

/-- What is left to do once a request has been processed. -/
def proceed (rt : Runtime σ γ) (verdict : Dispatcher.Verdict) (rest : List Request) :
    Runtime σ γ :=
  match verdict.flow with
  | .proceed => { rt with stage := .processing verdict.render rest }
  | .stop => if verdict.render then { rt with stage := .loading .stop } else rt.close

theorem dispatcher_become_refresh [GeometrySource γ] (rt : Runtime σ γ) :
    (rt.become rt.dispatcher.refresh).dispatcher = rt.dispatcher.refresh := by
  unfold Dispatcher.refresh
  split <;> rfl

theorem slot_become_refresh [GeometrySource γ] (rt : Runtime σ γ) :
    (rt.become rt.dispatcher.refresh).slot = rt.slot := by
  obtain ⟨written, same⟩ := rt.dispatcher.shared_refresh
  simp only [slot, become, same]
  rfl

theorem race_refresh [GeometrySource γ] (samples : Nat → Sample) (rt : Runtime σ γ) :
    ∃ written, (rt.become rt.dispatcher.refresh).race =
      rt.race.step samples (.cache written) := by
  obtain ⟨written, same⟩ := rt.dispatcher.shared_refresh
  refine ⟨written, ?_⟩
  simp only [become, same]
  rfl

variable [Sink σ] [GeometrySource γ]

def call (rt : Runtime σ γ) (state : Visibility) : Runtime σ γ :=
  { rt with sink := Sink.apply rt.sink (.of state), calls := rt.calls ++ [.of state] }

/-- The dispatcher's next action. With nothing queued it waits, unless all senders are gone. -/
def act (rt : Runtime σ γ) : Runtime σ γ :=
  match rt.stage with
  | .starting => { rt.become rt.dispatcher.refresh with stage := .loading .proceed }
  | .waiting =>
    match rt.requests.receive with
    | (.message request, left) =>
      { rt with stage := .draining [request], race.scene.requests := left }
    | (.empty, _) => rt
    | (.closed, _) => rt.close
  | .draining batch =>
    match rt.requests.receive with
    | (.message request, left) =>
      { rt with stage := .draining (batch ++ [request]), race.scene.requests := left }
    | (.empty, _) | (.closed, _) => { rt with stage := .processing false batch }
  | .processing due [] => { rt with stage := if due then .loading .proceed else .waiting }
  | .processing due (request :: rest) =>
    let (verdict, d) := Dispatcher.process due [request] rt.dispatcher
    (rt.become d).proceed verdict rest
  | .loading flow => { rt with stage := .applying rt.slot flow }
  | .applying state flow => (rt.call state).resume flow
  | .stopped => rt

def step (samples : Nat → Sample) (rt : Runtime σ γ) : Turn → Runtime σ γ
  | .sampler => { rt with race := rt.race.act samples }
  | .dispatcher => rt.act
  | .send request => { rt with race.scene.requests := rt.requests.post request }
  | .leave => { rt with race.scene.requests := rt.requests.dropSender }

def run (samples : Nat → Sample) (rt : Runtime σ γ) (turns : List Turn) : Runtime σ γ :=
  turns.foldl (step samples) rt

variable {samples : Nat → Sample} {rt : Runtime σ γ}

@[simp] theorem run_nil : rt.run samples [] = rt := rfl

@[simp] theorem run_cons (turn : Turn) (turns : List Turn) :
    rt.run samples (turn :: turns) = (rt.step samples turn).run samples turns := rfl

@[simp] theorem run_append (front back : List Turn) :
    rt.run samples (front ++ back) = (rt.run samples front).run samples back :=
  List.foldl_append

/-! ### What one action of the dispatcher does -/

/-- The actions of the dispatcher, one constructor each. -/
inductive Dispatches (rt : Runtime σ γ) : Runtime σ γ → Prop
  | start (stage : rt.stage = .starting) :
      Dispatches rt { rt.become rt.dispatcher.refresh with stage := .loading .proceed }
  | receive {request : Request} {rest : List Request} (stage : rt.stage = .waiting)
      (queued : rt.requests.queue = request :: rest) :
      Dispatches rt
        { rt with
          stage := .draining [request]
          race.scene.requests := { rt.requests with queue := rest } }
  | sleep (stage : rt.stage = .waiting) (empty : rt.requests.queue = [])
      (senders : rt.requests.senders ≠ 0) : Dispatches rt rt
  | close (stage : rt.stage = .waiting) (empty : rt.requests.queue = [])
      (alone : rt.requests.senders = 0) : Dispatches rt rt.close
  | drain {batch : List Request} {request : Request} {rest : List Request}
      (stage : rt.stage = .draining batch) (queued : rt.requests.queue = request :: rest) :
      Dispatches rt
        { rt with
          stage := .draining (batch ++ [request])
          race.scene.requests := { rt.requests with queue := rest } }
  | begin {batch : List Request} (stage : rt.stage = .draining batch)
      (empty : rt.requests.queue = []) :
      Dispatches rt { rt with stage := .processing false batch }
  | finish {due : Bool} (stage : rt.stage = .processing due []) :
      Dispatches rt { rt with stage := if due then .loading .proceed else .waiting }
  | render {due : Bool} {rest : List Request}
      (stage : rt.stage = .processing due (.render :: rest)) :
      Dispatches rt { rt with stage := .processing true rest }
  | override {due : Bool} {event : String} {rest : List Request}
      (stage : rt.stage = .processing due (.override event :: rest)) :
      Dispatches rt
        { rt with
          stage := .processing true rest
          race.scene.shared := rt.race.scene.shared.store .visible }
  | refresh {due : Bool} {rest : List Request}
      (stage : rt.stage = .processing due (.outputsChanged :: rest)) :
      Dispatches rt
        { rt.become rt.dispatcher.refresh with stage := .processing due rest }
  | shutdown {due : Bool} {rest : List Request}
      (stage : rt.stage = .processing due (.shutdown :: rest)) :
      Dispatches rt (if due then { rt with stage := .loading .stop } else rt.close)
  | load {flow : Flow} (stage : rt.stage = .loading flow) :
      Dispatches rt { rt with stage := .applying rt.slot flow }
  | apply {state : Visibility} {flow : Flow} (stage : rt.stage = .applying state flow) :
      Dispatches rt ((rt.call state).resume flow)
  | rest (stage : rt.stage = .stopped) : Dispatches rt rt

theorem dispatches_act (rt : Runtime σ γ) : Dispatches rt rt.act := by
  unfold act
  cases stage : rt.stage with
  | starting => exact .start stage
  | waiting =>
    cases queued : rt.requests.queue with
    | nil =>
      rw [Mailbox.receive_of_nil queued]
      by_cases alone : rt.requests.senders = 0
      · rw [if_pos alone]
        exact .close stage queued alone
      · rw [if_neg alone]
        exact .sleep stage queued alone
    | cons request rest =>
      rw [Mailbox.receive_of_cons queued]
      exact .receive stage queued
  | draining batch =>
    cases queued : rt.requests.queue with
    | nil =>
      rw [Mailbox.receive_of_nil queued]
      by_cases alone : rt.requests.senders = 0
      · rw [if_pos alone]
        exact .begin stage queued
      · rw [if_neg alone]
        exact .begin stage queued
    | cons request rest =>
      rw [Mailbox.receive_of_cons queued]
      exact .drain stage queued
  | processing due batch =>
    cases batch with
    | nil => exact .finish stage
    | cons request rest =>
      cases request with
      | render => exact .render stage
      | override event => exact .override stage
      | outputsChanged => exact .refresh stage
      | shutdown =>
        have left : Dispatches rt (if due then { rt with stage := .loading .stop } else rt.close) :=
          .shutdown stage
        cases due <;> exact left
  | loading flow => exact .load stage
  | applying state flow => exact .apply stage
  | stopped => exact .rest stage

/-! ### The sampler's view of a turn -/

/-- For the sampler a turn is one move, or none. -/
theorem race_step (samples : Nat → Sample) (rt : Runtime σ γ) (turn : Turn) :
    ∃ moves, (rt.step samples turn).race = rt.race.run samples moves := by
  cases turn with
  | sampler => exact ⟨[.sampler], rfl⟩
  | send request => exact ⟨[.mailbox (rt.requests.post request)], rfl⟩
  | leave => exact ⟨[.mailbox rt.requests.dropSender], rfl⟩
  | dispatcher =>
    have dispatches := dispatches_act rt
    change ∃ moves, rt.act.race = _
    generalize rt.act = rt' at dispatches ⊢
    cases dispatches with
    | start | refresh =>
      obtain ⟨written, same⟩ := race_refresh samples rt
      exact ⟨[.cache written], same⟩
    | @receive request rest | @drain batch request rest =>
      exact ⟨[.mailbox { rt.requests with queue := rest }], rfl⟩
    | @override due event rest => exact ⟨[.override event], rfl⟩
    | sleep | begin | finish | render | load | rest => exact ⟨[], rfl⟩
    | close => exact ⟨[.mailbox rt.requests.dropReceiver], rfl⟩
    | @shutdown due rest =>
      cases due with
      | false => exact ⟨[.mailbox rt.requests.dropReceiver], rfl⟩
      | true => exact ⟨[], rfl⟩
    | @apply state flow =>
      cases flow with
      | proceed => exact ⟨[], rfl⟩
      | stop => exact ⟨[.mailbox rt.requests.dropReceiver], rfl⟩

theorem race_run (samples : Nat → Sample) (rt : Runtime σ γ) (turns : List Turn) :
    ∃ moves, (rt.run samples turns).race = rt.race.run samples moves := by
  induction turns generalizing rt with
  | nil => exact ⟨[], rfl⟩
  | cons turn turns ih =>
    obtain ⟨first, stepped⟩ := race_step samples rt turn
    obtain ⟨rest, ran⟩ := ih (rt.step samples turn)
    exact ⟨first ++ rest, by rw [run_cons, ran, stepped, Race.run_append]⟩

theorem sink_step (samples : Nat → Sample) (rt : Runtime σ γ) (turn : Turn) :
    ∃ more, (rt.step samples turn).calls = rt.calls ++ more ∧
      (rt.step samples turn).sink = more.foldl Sink.apply rt.sink := by
  have silent : ∃ more, rt.calls = rt.calls ++ more ∧ rt.sink = more.foldl Sink.apply rt.sink :=
    ⟨[], (List.append_nil _).symm, rfl⟩
  cases turn with
  | sampler | send request | leave => exact silent
  | dispatcher =>
    have dispatches := dispatches_act rt
    change ∃ more, rt.act.calls = _ ∧ rt.act.sink = _
    generalize rt.act = rt' at dispatches ⊢
    cases dispatches with
    | start | refresh | receive | drain | override | sleep | begin | finish | render | load | rest
    | close => exact silent
    | @shutdown due rest => cases due <;> exact silent
    | @apply state flow => cases flow <;> exact ⟨[.of state], rfl, rfl⟩

/-- The actors when the dispatcher starts, with something queued already perhaps. -/
def boot (settings : Settings) (now : Nat) (shared : Shared) (queue : List Request) (senders : Nat)
    (sink : σ) (source : γ) (output : Option String) : Runtime σ γ where
  race := .opening
    { shared := shared
      machine := .create settings now
      requests := { queue := queue, senders := senders } }
  sink := sink
  source := source
  output := output

/-- Some order of turns leads from a start with these settings and this sink to `rt`. -/
def Reached (settings : Settings) (samples : Nat → Sample) (sink : σ) (rt : Runtime σ γ) : Prop :=
  ∃ now shared queue senders source output turns,
    rt = (boot settings now shared queue senders sink source output).run samples turns

theorem Reached.sound {settings : Settings} {sink : σ}
    (reached : Reached settings samples sink rt) : rt.race.Sound settings samples := by
  obtain ⟨now, shared, queue, senders, source, output, turns, rfl⟩ := reached
  obtain ⟨moves, ran⟩ := race_run samples
    (boot settings now shared queue senders sink source output) turns
  rw [ran]
  refine Race.Sound.run ⟨Machine.tuned_create settings now, fun current decided stage => ?_⟩ moves
  cases stage

/-- The sink has been given exactly the calls, in order. -/
theorem Reached.sink {settings : Settings} {sink : σ} (reached : Reached settings samples sink rt) :
    rt.sink = rt.calls.foldl Sink.apply sink := by
  obtain ⟨now, shared, queue, senders, source, output, turns, rfl⟩ := reached
  have told : ∀ (turns : List Turn) (rt : Runtime σ γ), rt.sink = rt.calls.foldl Sink.apply sink →
      (rt.run samples turns).sink = (rt.run samples turns).calls.foldl Sink.apply sink := by
    intro turns
    induction turns with
    | nil => exact fun _ same => same
    | cons turn turns ih =>
      intro rt same
      obtain ⟨more, calls, applied⟩ := sink_step samples rt turn
      refine ih _ ?_
      rw [applied, calls, List.foldl_append, same]
  exact told turns _ rfl

/-! ### Left to itself -/

/-- Only the dispatcher acts, some number of times. -/
inductive Alone : Runtime σ γ → Runtime σ γ → Prop
  | refl (rt : Runtime σ γ) : Alone rt rt
  | act {rt rt' : Runtime σ γ} (rest : Alone rt.act rt') : Alone rt rt'

theorem Alone.trans {first second third : Runtime σ γ} (before : Alone first second)
    (after : Alone second third) : Alone first third := by
  induction before with
  | refl => exact after
  | act _ ih => exact .act (ih after)

theorem alone_drain {batch : List Request} (stage : rt.stage = .draining batch) :
    ∃ rt' : Runtime σ γ, Alone rt rt' ∧ rt'.stage = .processing false (batch ++ rt.requests.queue) ∧
      rt'.dispatcher = rt.dispatcher := by
  generalize queued : rt.requests.queue = queue
  induction queue generalizing rt batch with
  | nil =>
    have begun : rt.act = { rt with stage := .processing false batch } := by
      by_cases alone : rt.requests.senders = 0
      · simp only [act, stage, Mailbox.receive_of_nil queued, if_pos alone]
      · simp only [act, stage, Mailbox.receive_of_nil queued, if_neg alone]
    refine ⟨rt.act, .act (.refl _), ?_, ?_⟩
    · rw [begun, List.append_nil]
    · rw [begun]
      rfl
  | cons request rest ih =>
    -- what is taken first stands first in the batch
    have taken : rt.act = { rt with
        stage := .draining (batch ++ [request])
        race.scene.requests := { rt.requests with queue := rest } } := by
      simp only [act, stage, Mailbox.receive_of_cons queued]
    have draining : rt.act.stage = .draining (batch ++ [request]) := by rw [taken]
    have left : rt.act.requests.queue = rest := by
      rw [taken]
      rfl
    obtain ⟨rt', alone, processing, same⟩ := ih draining left
    refine ⟨rt', .act alone, ?_, ?_⟩
    · rw [processing, List.append_assoc]
      rfl
    · rw [same, taken]
      rfl

/-- Where the dispatcher is after a batch. -/
def after : Flow → Stage
  | .proceed => .waiting
  | .stop => .stopped

theorem alone_process {due : Bool} {batch : List Request}
    (stage : rt.stage = .processing due batch) :
    ∃ rt' : Runtime σ γ, Alone rt rt' ∧
      rt'.dispatcher = (Dispatcher.process due batch rt.dispatcher).2 ∧
      rt'.stage =
        if (Dispatcher.process due batch rt.dispatcher).1.render then
          .loading (Dispatcher.process due batch rt.dispatcher).1.flow
        else after (Dispatcher.process due batch rt.dispatcher).1.flow := by
  induction batch generalizing rt due with
  | nil =>
    refine ⟨rt.act, .act (.refl _), ?_, ?_⟩
    · simp only [act, stage]
      rfl
    · simp only [act, stage]
      rfl
  | cons request rest ih =>
    cases request with
    | shutdown =>
      refine ⟨rt.act, .act (.refl _), ?_, ?_⟩
      · simp only [act, stage, Dispatcher.process, proceed]
        cases due <;> rfl
      · simp only [act, stage, Dispatcher.process, proceed]
        cases due <;> rfl
    | render | override event =>
      have next : rt.act.stage = .processing true rest := by
        simp only [act, stage]
        rfl
      obtain ⟨rt', alone, same, later⟩ := ih next
      refine ⟨rt', .act alone, ?_, ?_⟩
      · rw [same]
        simp only [act, stage]
        rfl
      · rw [later]
        simp only [act, stage]
        rfl
    | outputsChanged =>
      have next : rt.act.stage = .processing due rest := by
        simp only [act, stage]
        rfl
      have refreshed : rt.act.dispatcher = rt.dispatcher.refresh := by
        simp only [act, stage]
        exact dispatcher_become_refresh rt
      obtain ⟨rt', alone, same, later⟩ := ih next
      rw [refreshed] at same later
      exact ⟨rt', .act alone, same, later⟩

theorem alone_render {flow : Flow} (stage : rt.stage = .loading flow) :
    ∃ rt' : Runtime σ γ, Alone rt rt' ∧ rt'.dispatcher = rt.dispatcher.render ∧
      rt'.stage = after flow := by
  have loaded : rt.act = { rt with stage := .applying rt.slot flow } := by
    simp only [act, stage]
  refine ⟨rt.act.act, .act (.act (.refl _)), ?_, ?_⟩
  · rw [loaded]
    cases flow <;> rfl
  · rw [loaded]
    cases flow <;> rfl

/-- A dispatcher that nobody disturbs handles all that is queued as one batch. -/
theorem alone_handle {first : Request} {rest : List Request} (stage : rt.stage = .waiting)
    (queued : rt.requests.queue = first :: rest) :
    ∃ rt' : Runtime σ γ, Alone rt rt' ∧ rt'.dispatcher = (rt.dispatcher.handle (first :: rest)).2 ∧
      rt'.stage = after (rt.dispatcher.handle (first :: rest)).1 := by
  have taken : rt.act = { rt with
      stage := .draining [first]
      race.scene.requests := { rt.requests with queue := rest } } := by
    simp only [act, stage, Mailbox.receive_of_cons queued]
  have draining : rt.act.stage = .draining [first] := by rw [taken]
  obtain ⟨full, drained, batch, unchanged⟩ := alone_drain draining
  obtain ⟨processed, run, same, later⟩ := alone_process batch
  have batch_eq : [first] ++ rt.act.requests.queue = first :: rest := by
    rw [taken]
    rfl
  have unchanged : full.dispatcher = rt.dispatcher := by
    rw [unchanged, taken]
    rfl
  rw [batch_eq, unchanged] at same later
  unfold Dispatcher.handle
  dsimp only
  cases due : (Dispatcher.process false (first :: rest) rt.dispatcher).1.render with
  | false =>
    rw [due] at later
    exact ⟨processed, .act (drained.trans run), same, later⟩
  | true =>
    rw [due] at later
    obtain ⟨rendered, applied, drawn, done⟩ := alone_render later
    exact ⟨rendered, .act (drained.trans (run.trans applied)), by rw [drawn, same]; rfl, done⟩

/-! ### A run that hides the panel -/

/-- A source that always gives the same answer. -/
structure Steady where
  geometry : Option Geometry

instance : GeometrySource Steady where
  query source _ := (source.geometry, source)

/-- Everything starts up by itself, on the small output. -/
def quiet (settings : Settings) : Runtime Recorder Steady :=
  boot settings 0 {} [] 1 {} ⟨some { width := 100, height := 100, valid := true }⟩ none

/-- The dispatcher draws for the first time, two ticks hide the panel, and that is drawn. -/
def goingDown : List Turn :=
  List.replicate 3 .dispatcher ++ List.replicate 11 .sampler ++ List.replicate 6 .dispatcher

end Runtime

end EdgeReveal
