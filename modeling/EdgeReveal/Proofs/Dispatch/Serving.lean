import EdgeReveal.Proofs.Dispatch.Runtime

/-!
# What the dispatcher serves

While only senders act beside it, the dispatcher does what `Dispatcher.run`
does over the batches that it happens to find: `Standing` says for each stage
how far it has come in the batch at hand. `work` bounds the actions that are
left, so the dispatcher comes to rest; it has stopped by then if there was a
shutdown or if the senders are gone.
-/
namespace EdgeReveal

open Dispatcher

/-- A bound on what is left to do at a stage, apart from the queue. -/
def Stage.work : Stage → Nat
  | .stopped => 0
  | .waiting => 1
  | .applying _ _ => 2
  | .loading _ => 3
  | .starting => 4
  | .processing _ rest => 4 + rest.length
  | .draining batch => 5 + batch.length

theorem Stage.work_pos {stage : Stage} (busy : stage ≠ .stopped) : 0 < stage.work := by
  unfold work
  split
  · exact absurd rfl busy
  all_goals omega

namespace Runtime

variable {σ γ : Type} {samples : Nat → Sample} {rt rt' : Runtime σ γ}

/-! ### Coming to rest -/

/-- The dispatcher has stopped, or waits for a sender. -/
def Rests (rt : Runtime σ γ) : Prop :=
  rt.stage = .stopped ∨
    rt.stage = .waiting ∧ rt.requests.queue = [] ∧ rt.requests.senders ≠ 0

/-- A queued request outweighs the wait that it ends and its place in the batch. -/
def work (rt : Runtime σ γ) : Nat := 6 * rt.requests.queue.length + rt.stage.work

/-- An action that leaves the queue alone brings the stage on. -/
theorem work_lt_of_stage (queue : rt'.requests.queue = rt.requests.queue)
    (less : rt'.stage.work < rt.stage.work) : rt'.work < rt.work := by
  unfold work
  rw [queue]
  omega

/-- Taking a request off the queue pays for what is then to be done with it. -/
theorem work_lt_of_take {request : Request} {rest : List Request}
    (queued : rt.requests.queue = request :: rest) (left : rt'.requests.queue = rest)
    (little : rt'.stage.work < rt.stage.work + 6) : rt'.work < rt.work := by
  unfold work
  rw [queued, left, List.length_cons]
  omega

theorem work_close_lt (busy : rt.stage ≠ .stopped) : rt.close.work < rt.work := by
  have lost : rt.close.work = 0 := rfl
  have some : 0 < rt.stage.work := Stage.work_pos busy
  rw [lost]
  unfold work
  omega

variable [Sink σ] [GeometrySource γ]

/-- Unless the dispatcher is at rest, its next action leaves it less to do. -/
theorem work_act_lt (busy : ¬ rt.Rests) : rt.act.work < rt.work := by
  have dispatches := dispatches_act rt
  generalize rt.act = rt' at dispatches ⊢
  cases dispatches with
  | start stage | begin stage | render stage | override stage | refresh stage | load stage =>
    exact work_lt_of_stage rfl (by simp [stage, Stage.work])
  | receive stage queued => exact work_lt_of_take queued rfl (by simp [stage, Stage.work])
  | drain stage queued =>
    refine work_lt_of_take queued rfl ?_
    simp only [stage, Stage.work, List.length_append, List.length_singleton]
    omega
  | sleep stage empty senders => exact absurd (.inr ⟨stage, empty, senders⟩) busy
  | close stage => exact work_close_lt (by simp [stage])
  | @finish due stage =>
    refine work_lt_of_stage rfl ?_
    cases due <;> simp [stage, Stage.work]
  | @shutdown due rest stage =>
    cases due with
    | false => exact work_close_lt (by simp [stage])
    | true =>
      refine work_lt_of_stage rfl ?_
      simp only [stage, Stage.work, if_true]
      omega
  | @apply state flow stage =>
    cases flow with
    | proceed => exact work_lt_of_stage rfl (by simp [stage, Stage.work, resume])
    | stop =>
      have busy : rt.stage ≠ .stopped := by simp [stage]
      exact work_close_lt busy
  | rest stage => exact absurd (.inl stage) busy

/-- Left to itself the dispatcher comes to rest. -/
theorem exists_rests (rt : Runtime σ γ) : ∃ rt', Alone rt rt' ∧ rt'.Rests := by
  by_cases rests : rt.Rests
  · exact ⟨rt, .refl rt, rests⟩
  · obtain ⟨rt', alone, rests'⟩ := exists_rests rt.act
    exact ⟨rt', .act alone, rests'⟩
termination_by rt.work
decreasing_by exact work_act_lt rests

/-! ### The requests that reach the dispatcher -/

/-- What a sender gets into the mailbox; without a receiver its request comes back. -/
def accepts (rt : Runtime σ γ) : Turn → List Request
  | .send request => if rt.requests.receiving then [request] else []
  | .sampler | .dispatcher | .leave => []

/-- What the senders get into the mailbox in the course of these turns, oldest first. -/
def accepted (samples : Nat → Sample) (rt : Runtime σ γ) : List Turn → List Request
  | [] => []
  | turn :: turns => rt.accepts turn ++ (rt.step samples turn).accepted samples turns

end Runtime

/-! ### The batch at hand -/

/-- What has become of `start` at a stage, with the requests `taken` off the mailbox so far. -/
inductive Standing {σ γ : Type} [Sink σ] [GeometrySource γ] (start now : Dispatcher σ γ) :
    Stage → List Request → Prop
  | starting (same : now = start) : Standing start now .starting []
  | waiting {batches : List (List Request)} (served : start.run batches = (.proceed, now)) :
      Standing start now .waiting batches.flatten
  | draining {batches : List (List Request)} {batch : List Request}
      (served : start.run batches = (.proceed, now)) :
      Standing start now (.draining batch) (batches.flatten ++ batch)
  /-- What is left of the batch does what the whole of it did to the dispatcher before it. -/
  | processing {batches : List (List Request)} {batch rest : List Request} {due : Bool}
      {before : Dispatcher σ γ} (served : start.run batches = (.proceed, before))
      (left : process due rest now = process false batch before) :
      Standing start now (.processing due rest) (batches.flatten ++ batch)
  | loading {batches : List (List Request)} {flow : Flow}
      (served : start.run batches = (flow, now.render)) :
      Standing start now (.loading flow) batches.flatten
  | applying {batches : List (List Request)} {state : Visibility} {flow : Flow}
      (served : start.run batches = (flow, now.withSink (Sink.apply now.sink (.of state)))) :
      Standing start now (.applying state flow) batches.flatten
  /-- A shutdown loses what is still queued. -/
  | ended {batches : List (List Request)} {lost : List Request}
      (served : start.run batches = (.stop, now)) :
      Standing start now .stopped (batches.flatten ++ lost)
  | closed {batches : List (List Request)} (served : start.run batches = (.proceed, now)) :
      Standing start now .stopped batches.flatten

namespace Runtime

variable {σ γ : Type} [Sink σ] [GeometrySource γ] {samples : Nat → Sample} {rt rt' : Runtime σ γ}

/-- What has been made of `start` once the mailbox has been given `requests`. -/
structure Serving (start : Dispatcher σ γ) (requests : List Request) (rt : Runtime σ γ) :
    Prop where
  standing : ∃ taken, Standing start rt.dispatcher rt.stage taken ∧
    requests = taken ++ rt.requests.queue
  deaf : rt.stage = .stopped → rt.requests.receiving = false ∧ rt.requests.queue = []
  gone : rt.stage = .stopped → .shutdown ∈ requests ∨ rt.requests.senders = 0

variable {start : Dispatcher σ γ} {requests : List Request}

theorem Serving.of_running {taken : List Request} (running : rt.stage ≠ .stopped)
    (standing : Standing start rt.dispatcher rt.stage taken)
    (account : requests = taken ++ rt.requests.queue) : Serving start requests rt :=
  ⟨⟨taken, standing, account⟩, fun stopped => absurd stopped running,
    fun stopped => absurd stopped running⟩

/-- A stop loses the queue. -/
theorem Serving.of_ended {batches : List (List Request)} {queue : List Request}
    (served : start.run batches = (.stop, rt.dispatcher))
    (account : requests = batches.flatten ++ queue) : Serving start requests rt.close := by
  refine ⟨⟨batches.flatten ++ queue, .ended served, ?_⟩, fun _ => ⟨rfl, rfl⟩, fun _ => .inl ?_⟩
  · exact account.trans (List.append_nil _).symm
  · rw [account]
    exact List.mem_append_left _ (shutdown_mem_of_run served)

/-- An action of the dispatcher brings it on in the batch at hand, or from batch to batch. -/
theorem Serving.act (serving : Serving start requests rt) : Serving start requests rt.act := by
  obtain ⟨taken, standing, account⟩ := serving.standing
  have dispatches := dispatches_act rt
  generalize rt.act = rt' at dispatches ⊢
  cases dispatches with
  | start stage =>
    rw [stage] at standing
    cases standing with
    | starting same =>
      have refreshed := dispatcher_become_refresh rt
      rw [same] at refreshed
      have served : start.run [] =
          (.proceed, (rt.become rt.dispatcher.refresh).dispatcher.render) := by
        rw [same, refreshed]
        rfl
      exact .of_running (by simp) (.loading served) account
  | @receive request rest stage queued =>
    rw [stage] at standing
    cases standing with
    | @waiting batches served =>
      -- what leaves the queue is the batch so far
      refine .of_running (by simp) (.draining served) ?_
      rw [account, queued, List.append_assoc]
      rfl
  | sleep | rest => exact serving
  | close stage empty alone =>
    rw [stage] at standing
    cases standing with
    | @waiting batches served =>
      refine ⟨⟨batches.flatten, .closed served, ?_⟩, fun _ => ⟨rfl, rfl⟩, fun _ => .inr alone⟩
      rw [account, empty]
      rfl
  | @drain batch request rest stage queued =>
    rw [stage] at standing
    cases standing with
    | @draining batches _ served =>
      refine .of_running (by simp) (.draining served) ?_
      rw [account, queued, ← List.append_assoc, List.append_assoc _ [request]]
      rfl
  | begin stage empty =>
    -- the batch is complete, and nothing of it has been processed
    rw [stage] at standing
    cases standing with
    | draining served => exact .of_running (by simp) (.processing served rfl) account
  | @finish due stage =>
    rw [stage] at standing
    cases standing with
    | @processing batches batch _ _ before served left =>
      -- the batch is through; with a rendering due, only that is missing
      have handled := run_concat served left
      rw [← List.flatten_concat] at account
      cases due with
      | true => exact .of_running (by simp) (.loading handled) account
      | false => exact .of_running (by simp) (.waiting handled) account
  | render stage | override stage =>
    -- `process` takes the request in the same way, so the rest does what it did
    rw [stage] at standing
    cases standing with
    | processing served left => exact .of_running (by simp) (.processing served left) account
  | @refresh due rest stage =>
    rw [stage] at standing
    cases standing with
    | @processing batches batch _ _ before served left =>
      have left : process due rest (rt.become rt.dispatcher.refresh).dispatcher =
          process false batch before := by
        rw [dispatcher_become_refresh]
        exact left
      exact .of_running (by simp) (.processing served left) account
  | @shutdown due rest stage =>
    rw [stage] at standing
    cases standing with
    | @processing batches batch _ _ before served left =>
      have handled := run_concat served left
      rw [← List.flatten_concat] at account
      cases due with
      | true => exact .of_running (by simp) (.loading handled) account
      | false => exact .of_ended handled account
  | load stage =>
    rw [stage] at standing
    cases standing with
    | loading served => exact .of_running (by simp) (.applying served) account
  | @apply state flow stage =>
    rw [stage] at standing
    cases standing with
    | applying served =>
      cases flow with
      | proceed => exact .of_running (by simp [resume]) (.waiting served) account
      | stop =>
        have closed : Serving start requests (rt.call state).close := .of_ended served account
        exact closed

/-! ### What the senders do -/

theorem Serving.send (serving : Serving start requests rt) (request : Request) :
    Serving start (requests ++ rt.accepts (.send request))
      (rt.step samples (.send request)) := by
  obtain ⟨⟨taken, standing, account⟩, deaf, gone⟩ := serving
  have grown : (rt.step samples (.send request)).requests.queue =
      rt.requests.queue ++ rt.accepts (.send request) := by
    refine (Mailbox.queue_post rt.requests request).trans ?_
    unfold accepts
    split
    · rfl
    · exact (List.append_nil _).symm
  refine ⟨⟨taken, standing, ?_⟩, fun stopped => ?_, fun stopped => ?_⟩
  · rw [grown, account, List.append_assoc]
  · have ⟨refused, empty⟩ := deaf stopped
    have nothing : rt.accepts (.send request) = [] := by simp [accepts, refused]
    rw [grown, nothing, List.append_nil]
    exact ⟨(Mailbox.receiving_post _ _).trans refused, empty⟩
  · exact (gone stopped).imp (List.mem_append_left _) (Mailbox.senders_post _ _).trans

theorem Serving.step (serving : Serving start requests rt) {turn : Turn}
    (other : turn ≠ .sampler) :
    Serving start (requests ++ rt.accepts turn) (rt.step samples turn) := by
  cases turn with
  | sampler => exact absurd rfl other -- the other one who writes the slot
  | send request => exact serving.send request
  | dispatcher =>
    rw [accepts, List.append_nil]
    exact serving.act
  | leave =>
    obtain ⟨standing, deaf, gone⟩ := serving
    rw [accepts, List.append_nil]
    refine ⟨standing, deaf, fun stopped => (gone stopped).imp_right fun zero => ?_⟩
    have fewer : rt.requests.senders - 1 = 0 := by rw [zero]
    exact fewer

theorem Serving.run {turns : List Turn} (serving : Serving start requests rt)
    (undisturbed : .sampler ∉ turns) :
    Serving start (requests ++ rt.accepted samples turns) (rt.run samples turns) := by
  induction turns generalizing requests rt with
  | nil => simpa [accepted] using serving
  | cons turn turns ih =>
    have ⟨other, others⟩ := not_or.mp (mt List.mem_cons.mpr undisturbed)
    have stepped : Serving start (requests ++ rt.accepts turn) (rt.step samples turn) :=
      serving.step (Ne.symm other)
    rw [accepted, ← List.append_assoc]
    exact ih stepped others

theorem Serving.alone (serving : Serving start requests rt) (alone : Alone rt rt') :
    Serving start requests rt' := by
  induction alone with
  | refl => exact serving
  | act _ ih => exact ih serving.act

/-! ### The end of a run -/

/-- At rest the dispatcher has been through a whole number of batches, with nothing left. -/
theorem Serving.at_rest (serving : Serving start requests rt) (rests : rt.Rests) :
    ∃ batches, (start.run batches).2 = rt.dispatcher ∧
      heeded batches.flatten = heeded requests ∧
      (rt.stage = .stopped ↔ .shutdown ∈ requests ∨ rt.requests.senders = 0) := by
  obtain ⟨⟨taken, standing, account⟩, deaf, gone⟩ := serving
  rcases rests with stopped | ⟨waiting, empty, senders⟩
  · have ended : rt.stage = .stopped ↔ .shutdown ∈ requests ∨ rt.requests.senders = 0 :=
      ⟨gone, fun _ => stopped⟩
    rw [(deaf stopped).2, List.append_nil] at account
    rw [stopped] at standing
    cases standing with
    | @ended batches lost served =>
      -- the shutdown stands before what is lost
      refine ⟨batches, congrArg Prod.snd served, ?_, ended⟩
      rw [account, heeded_append_of_mem (shutdown_mem_of_run served)]
    | @closed batches served =>
      exact ⟨batches, congrArg Prod.snd served, by rw [account], ended⟩
  · rw [empty, List.append_nil] at account
    rw [waiting] at standing
    cases standing with
    | @waiting batches served =>
      refine ⟨batches, congrArg Prod.snd served, by rw [account], ?_⟩
      constructor
      · intro stopped
        rw [waiting] at stopped
        cases stopped
      · intro ended
        rw [account] at ended
        exact absurd ended (not_or.mpr ⟨shutdown_not_mem_of_run served, senders⟩)

theorem senders_act (rt : Runtime σ γ) : rt.act.requests.senders = rt.requests.senders := by
  have dispatches := dispatches_act rt
  generalize rt.act = rt' at dispatches ⊢
  cases dispatches with
  | start | receive | drain | begin | finish | render | override | refresh | load | sleep | close
  | rest => rfl
  | @shutdown due rest => cases due <;> rfl
  | @apply state flow => cases flow <;> rfl

theorem Alone.senders (alone : Alone rt rt') : rt'.requests.senders = rt.requests.senders := by
  induction alone with
  | refl => rfl
  | act _ ih => exact ih.trans (senders_act _)

/-- Where requests are cut into batches shows in the calls before the last one and nowhere else:
not in the loop over given batches, and not in what the dispatcher makes of the requests that it
finds while senders come and go. -/
theorem batching_unobservable {γ : Type} [GeometrySource γ] (settings : Settings)
    (samples : Nat → Sample) (now senders : Nat) (d : Dispatcher Recorder (Inquiry γ))
    (queue : List Request) (turns : List Turn) (undisturbed : .sampler ∉ turns) :
    (∀ batches : List (List Request),
      (d.serve batches).1 = (d.oneByOne batches.flatten).1 ∧
      ((d.serve batches).1 = .stop ↔ .shutdown ∈ batches.flatten) ∧
      Alike (d.serve batches).2 (d.oneByOne (heeded batches.flatten)).2) ∧
    (∀ front batch rest later,
      d.serve (front ++ (batch ++ .shutdown :: rest) :: later) =
        d.serve (front ++ [batch ++ [.shutdown]])) ∧
    (∀ batch, (d.handle batch).2.sink.calls =
      d.sink.calls ++ if (heeded batch).any Request.draws
        then [.of (d.handle batch).2.shared.slot.load] else []) ∧
    let first := boot settings now d.shared queue senders d.sink d.source d.output
    let requests := queue ++ first.accepted samples turns
    let rt := first.run samples turns
    (∃ rt', Alone rt rt' ∧ rt'.Rests) ∧
    ∀ rt', Alone rt rt' → rt'.Rests →
      (∃ batches, (d.run batches).2 = rt'.dispatcher ∧
        heeded batches.flatten = heeded requests) ∧
      Alike rt'.dispatcher (d.refresh.render.oneByOne (heeded requests)).2 ∧
      (rt'.stage = .stopped ↔ .shutdown ∈ requests ∨ rt.requests.senders = 0) := by
  refine ⟨fun batches => ⟨?_, ?_, serve_alike_oneByOne d batches⟩,
    fun front batch rest later => serve_shutdown d front batch rest later, calls_handle d, ?_⟩
  · rw [flow_serve, flow_oneByOne]
  · rw [flow_serve]
    exact flowOf_eq_stop
  -- the dispatcher among the senders runs through some batches or other
  intro first requests rt
  have begun : Serving d queue first := .of_running (by simp [first, boot]) (.starting rfl) rfl
  have serving : Serving d requests rt := begun.run undisturbed
  refine ⟨exists_rests rt, fun rt' alone rests => ?_⟩
  obtain ⟨batches, served, counts, ended⟩ := (serving.alone alone).at_rest rests
  have alike := serve_alike_oneByOne d.refresh.render batches
  rw [counts] at alike
  refine ⟨⟨batches, served, counts⟩, ?_, ?_⟩
  · rw [← served]
    exact alike
  · rw [← alone.senders]
    exact ended

/-- Requests in two batches, the second with a shutdown in it and a request behind that. -/
def farewell : List Turn :=
  .send .render :: List.replicate 9 .dispatcher ++
    [.send (.override "workspacev2"), .send .outputsChanged, .send .shutdown, .send .render,
      .leave] ++ List.replicate 12 .dispatcher

/-- A dispatcher with nothing behind it, on a small output that is always there. -/
def fresh : Dispatcher Recorder (Inquiry Steady) :=
  { sink := {}, source := ⟨⟨some { width := 100, height := 100, valid := true }⟩, []⟩ }

/-- The actors around `fresh` at the start, with one sender. -/
def greeted : Runtime Recorder (Inquiry Steady) :=
  boot {} 0 fresh.shared [] 1 fresh.sink fresh.source fresh.output

theorem batching_unobservable_farewell :
    .sampler ∉ farewell ∧ (greeted.run Race.visit farewell).Rests ∧
    (greeted.run Race.visit farewell).stage = .stopped ∧
    Alike (greeted.run Race.visit farewell).dispatcher
      (fresh.refresh.render.oneByOne
        [.render, .override "workspacev2", .outputsChanged]).2 := by
  have undisturbed : Turn.sampler ∉ farewell := by decide
  have stopped : (greeted.run Race.visit farewell).stage = .stopped := by decide
  have rests : (greeted.run Race.visit farewell).Rests := .inl stopped
  have counts : heeded ([] ++ greeted.accepted Race.visit farewell) =
      [.render, .override "workspacev2", .outputsChanged] := by decide
  obtain ⟨-, -, -, -, ends⟩ := batching_unobservable {} Race.visit 0 1 fresh [] farewell undisturbed
  have alike := (ends _ (.refl _) rests).2.1
  rw [← counts]
  exact ⟨undisturbed, rests, stopped, alike⟩

end Runtime

end EdgeReveal
