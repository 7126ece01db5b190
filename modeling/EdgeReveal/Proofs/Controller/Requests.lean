import EdgeReveal.Monitor.Basic
import EdgeReveal.Proofs.Subscriptions.Hearing
import EdgeReveal.Session
import Mathlib.Data.List.Perm.Subperm

/-!
# What a controller asks for

A controller subscribes to six names and looks at the names again when it is called. The two agree:
what it would turn into a request it has subscribed to. So the requests that it puts on the queue
are those of all lines published while it runs, whoever else is listening. A session publishes
without interruption, so that its queue can be told from its lines alone.
-/
namespace EdgeReveal

open Traffic (Run)

/-! ### Two looks at a name -/

theorem Request.watched_of_ofEvent? {event : Event} {request : Request}
    (asks : ofEvent? event = some request) : event.name ∈ watchedEvents := by
  unfold ofEvent? at asks
  split at asks
  next layout => exact List.mem_append_left _ layout
  next =>
    split at asks
    next output => exact List.mem_append_right _ output
    next => cases asks

namespace Controller

variable {η : Type} {history : List (Happening η)}

/-- The subscription of a controller. -/
def listener (id : Nat) (handler : η) : Subscription η := ⟨id, Request.watchedEvents, handler⟩

theorem start_spawned (settings : Settings) (now : Nat) (handler : η) (table : Subscriptions η) :
    start settings now true handler table =
      (.ok
        { settings := settings.validated
          interval := settings.validated.intervalMillis
          sampler := some (.create settings.validated now)
          subscription := some table.nextId },
        (table.insert Request.watchedEvents handler).2) := rfl

/-- There is no wildcard among the names, so the filter is the list. -/
theorem listener_wants (id : Nat) (handler : η) (name : String) :
    (listener id handler).wants name = true ↔ name ∈ Request.watchedEvents := by
  rw [Subscription.wants_iff, or_iff_left]
  · rfl
  · show "*" ∉ Request.watchedEvents
    decide

/-- The requests that the handler with this id makes of what it is called with. -/
def posted (id : Nat) (history : List (Happening η)) : List Request :=
  (Traffic.heardBy id history).filterMap Request.ofEvent?

/-- The requests that the lines published call for. -/
def asked (history : List (Happening η)) : List Request :=
  (Traffic.lines history).filterMap fun line => Request.ofEvent? (.ofLine line)

/-- The filter of the subscription drops no line that calls for a request. -/
theorem filterMap_wanted (id : Nat) (handler : η) :
    (Traffic.wanted (listener id handler) history).filterMap Request.ofEvent? = asked history := by
  rw [Traffic.wanted, List.filterMap_filter, List.filterMap_map, asked]
  refine List.filterMap_congr fun line _ => ?_
  rw [Function.comp_apply, ite_eq_left_iff]
  intro unwanted
  cases asks : Request.ofEvent? (.ofLine line) with
  | none => rfl
  | some request =>
    exact absurd ((listener_wants id handler _).mpr (Request.watched_of_ofEvent? asks)) unwanted

theorem queue_onEvent {box : Mailbox Request} (receiving : box.receiving = true) (event : Event) :
    (onEvent box event).queue = box.queue ++ (Request.ofEvent? event).toList ∧
      (onEvent box event).receiving = true := by
  unfold onEvent
  cases Request.ofEvent? event with
  | none => exact ⟨by simp, receiving⟩
  | some request => exact ⟨by simp [Mailbox.queue_post, receiving], by simp [receiving]⟩

theorem queue_onEvents {box : Mailbox Request} (receiving : box.receiving = true)
    (events : List Event) :
    (events.foldl onEvent box).queue = box.queue ++ events.filterMap Request.ofEvent? := by
  induction events generalizing box with
  | nil => simp
  | cons event events ih =>
    obtain ⟨queue, receiving'⟩ := queue_onEvent receiving event
    rw [List.foldl_cons, ih receiving', queue, List.append_assoc, List.filterMap_cons]
    cases Request.ofEvent? event <;> rfl

end Controller

/-! ### A session's notifier at work -/

/-- What is done at a session's notifier: a line is published, somebody else subscribes, a
subscription is removed. -/
inductive Errand where
  | line (text : String)
  | join (key : String) (events : List String)
  | leave (id : Nat)
  deriving DecidableEq, Repr

def Errand.lines (errands : List Errand) : List String :=
  errands.filterMap fun
    | .line text => some text
    | _ => none

namespace Session

variable {σ γ : Type} {s s₁ s' : Session σ γ} {id : Nat} {b b₁ b' : Traffic Audience}
  {errand : Errand}

def attend (s : Session σ γ) : Errand → Session σ γ
  | .line text => (s.publish text).2
  | .join key events => { s with notifier := (s.notifier.insert events (.other key)).2 }
  | .leave id => { s with notifier := (s.notifier.remove id).2 }

/-- The controller has its subscription, and nobody else goes by its handler. -/
structure Attached (s : Session σ γ) (id : Nat) : Prop where
  owned : s.controller.subscription = some id
  sound : s.notifier.Sound
  listens : Controller.listener id .controller ∈ s.notifier.entries
  only : ∀ t ∈ s.notifier.entries, t.handler = .controller ↔ t.id = id

theorem attached_start {settings : Settings} {now : Nat} {sink : σ} {source : γ}
    {output : Option String} {notifier : Subscriptions Audience}
    (started : start settings now sink source output notifier = .ok s) (sound : notifier.Sound)
    (others : ∀ t ∈ notifier.entries, t.handler ≠ .controller) :
    s.Attached notifier.nextId ∧ s.requests = {} := by
  rw [start, Controller.start_spawned] at started
  cases started
  refine ⟨⟨rfl, sound.insert _ _, Subscriptions.mem_insert.mpr (.inr rfl), fun t within => ?_⟩, rfl⟩
  rcases Subscriptions.mem_insert.mp within with old | rfl
  · exact iff_of_false (others t old) (Nat.ne_of_lt (sound.given t old))
  · exact iff_of_true rfl rfl

/-- No errand but its own removal takes the controller's subscription away. -/
theorem Attached.attend (attached : s.Attached id) (stays : errand ≠ .leave id) :
    (s.attend errand).Attached id := by
  cases errand with
  | line => exact ⟨attached.owned, attached.sound, attached.listens, attached.only⟩
  | join key events =>
    refine ⟨attached.owned, attached.sound.insert _ _,
      Subscriptions.mem_insert.mpr (.inl attached.listens), fun t within => ?_⟩
    rcases Subscriptions.mem_insert.mp within with old | rfl
    · exact attached.only t old
    · exact iff_of_false nofun (Nat.ne_of_gt (attached.sound.given _ attached.listens))
  | leave gone =>
    have other : id ≠ gone := fun same => stays (congrArg _ same.symm)
    exact ⟨attached.owned, attached.sound.remove gone,
      Subscriptions.mem_remove.mpr ⟨attached.listens, other⟩,
      fun t within => attached.only t (Subscriptions.mem_remove.mp within).1⟩

/-- What the handlers of some recipients do, one after the other, is what the controller's does. -/
theorem foldl_audience {recipients : List (Subscription Audience)}
    (only : ∀ t ∈ recipients, t.handler = .controller ↔ t.id = id) (number : Nat) (event : Event)
    (box : Mailbox Request) :
    (recipients.map fun t => (t.handler, event)).foldl
        (fun requests (audience, event) =>
          match audience with
          | .controller => Controller.onEvent requests event
          | .other _ => requests) box =
      (Traffic.heardBy id (recipients.map (.called number · event))).foldl Controller.onEvent
        box := by
  induction recipients generalizing box with
  | nil => rfl
  | cons t rest ih =>
    -- Both sides pass over the handlers of others.
    have ih := ih fun t' within => only t' (List.mem_cons_of_mem _ within)
    have itself := only t List.mem_cons_self
    rw [List.map_cons, List.map_cons, List.foldl_cons, Traffic.heardBy_called]
    cases handled : t.handler with
    | controller =>
      rw [if_pos (itself.mp handled), List.foldl_cons]
      exact ih _
    | other key =>
      rw [if_neg fun own => by simp [itself.mpr own] at handled]
      exact ih _

/-- From `s` to `s'` there is traffic at the notifier in which the controller's handler hears every
line that it wants, and what is posted is what this handler makes of it. -/
structure Passage (id : Nat) (s s' : Session σ γ) (b : Traffic Audience)
    (history : List (Happening Audience)) (b' : Traffic Audience) : Prop where
  run : Run b history b'
  table : b'.table = s'.notifier
  heard : Traffic.heardBy id history = Traffic.wanted (Controller.listener id .controller) history
  posted : s'.requests = (Traffic.heardBy id history).foldl Controller.onEvent s.requests

theorem Passage.append {history later : List (Happening Audience)}
    (first : Passage id s s₁ b history b₁) (more : Passage id s₁ s' b₁ later b') :
    Passage id s s' b (history ++ later) b' where
  run := first.run.append more.run
  table := more.table
  heard := by rw [Traffic.heardBy_append, Traffic.wanted_append, first.heard, more.heard]
  posted := by rw [Traffic.heardBy_append, List.foldl_append, ← first.posted, more.posted]

/-- A line that a session publishes is one publishing at its table without interruption. -/
theorem publish_traffic (attached : s.Attached id) (same : b.table = s.notifier) (line : String) :
    ∃ calls b', Traffic.lines calls = [] ∧
      Passage id s (s.publish line).2 b ([.published line] ++ calls ++
        [.returned b.publishings.length (s.publish line).1]) b' := by
  obtain ⟨b', table, run⟩ := Traffic.run_publish b line
  rw [same] at run
  have delivered : (s.publish line).1 = (s.notifier.recipients (.ofLine line)).length := by
    rw [publish, Subscriptions.deliveries, List.length_map]
  let calls : List (Happening Audience) :=
    (s.notifier.recipients (.ofLine line)).map (.called b.publishings.length · (.ofLine line))
  have wanted : Traffic.heardBy id calls =
      Traffic.wanted (Controller.listener id Audience.controller) [.published line] :=
    (Traffic.heardBy_calls ..).trans
      (Traffic.owedBy_chosen attached.sound attached.listens (.refl _))
  have silent : Traffic.lines calls = [] := by simp [calls, Traffic.lines]
  -- The handlers are called between the beginning and the return, and only they hear anything.
  have within (count : Nat) : Traffic.heardBy id
      ([.published line] ++ calls ++ [.returned b.publishings.length count]) =
        Traffic.heardBy id calls := by
    rw [Traffic.heardBy_append, Traffic.heardBy_append]
    exact List.append_nil _
  refine ⟨calls, b', silent, by rwa [delivered], table.trans same, ?heard, ?posted⟩
  case heard =>
    rw [within, wanted, Traffic.wanted, Traffic.wanted, Traffic.lines_append, Traffic.lines_append,
      silent]
    rfl
  case posted =>
    rw [within]
    exact foldl_audience (fun t among => attached.only t (List.mem_filter.mp among).1) _ _ _

/-- Every errand is traffic, in which its line is published and no other. -/
theorem attend_traffic (attached : s.Attached id) (same : b.table = s.notifier) (errand : Errand) :
    ∃ history b', Passage id s (s.attend errand) b history b' ∧
      Traffic.lines history = Errand.lines [errand] := by
  cases errand with
  | line text =>
    obtain ⟨calls, b', silent, passage⟩ := publish_traffic attached same text
    refine ⟨_, b', passage, ?_⟩
    rw [Traffic.lines_append, Traffic.lines_append, silent]
    rfl
  | join key events =>
    refine ⟨_, _, ⟨Run.nil.snoc (.insert b events (.other key)), ?_, rfl, rfl⟩, rfl⟩
    rw [same]
    rfl
  | leave gone =>
    refine ⟨_, _, ⟨Run.nil.snoc (.remove b gone), ?_, rfl, rfl⟩, rfl⟩
    rw [same]
    rfl

/-- So are any number of errands, one after the other. -/
theorem attend_all (attached : s.Attached id) {errands : List Errand}
    (stays : .leave id ∉ errands) :
    ∃ history b', Passage id s (errands.foldl attend s) { table := s.notifier } history b' ∧
      (errands.foldl attend s).Attached id ∧ Traffic.lines history = Errand.lines errands := by
  induction errands using List.reverseRecOn with
  | nil => exact ⟨[], _, ⟨.nil, rfl, rfl, rfl⟩, attached, rfl⟩
  | append_singleton errands errand ih =>
    rw [List.mem_append, not_or, List.mem_singleton] at stays
    obtain ⟨history, b₁, passage, attached₁, published⟩ := ih stays.1
    obtain ⟨later, b', more, published'⟩ := attend_traffic attached₁ passage.table errand
    rw [List.foldl_append]
    refine ⟨history ++ later, b', passage.append more, attached₁.attend (Ne.symm stays.2), ?_⟩
    rw [Traffic.lines_append, published, published']
    exact List.filterMap_append.symm

/-- What has been put on the queue are the requests that the lines call for. -/
theorem Passage.queue {history : List (Happening Audience)} (passage : Passage id s s' b history b')
    (receiving : s.requests.receiving = true) :
    s'.requests.queue = s.requests.queue ++ Controller.asked history := by
  rw [passage.posted, Controller.queue_onEvents receiving, passage.heard,
    Controller.filterMap_wanted]

end Session

/-- While a controller runs, its handler posts what the lines published call for, each line once:
in whatever order the calls come, and in the order of the lines where these are published one after
the other. What is still pending at any moment is nothing as soon as all publishings have
returned. A session publishes lines one after the other, so the queue of a panel grows by just what
its lines call for, whoever else comes and goes. -/
theorem Controller.requests_of_lines :
    (∀ {η : Type} {before later : List (Happening η)} {b₀ b : Traffic η} {settings : Settings}
        {now id : Nat} {handler : η} {c : Controller} {table : Subscriptions η},
      Run {} before b₀ → start settings now true handler b₀.table = (.ok c, table) →
      c.subscription = some id → Run { b₀ with table := table } later b →
      (∀ was, .removed id was ∉ later) →
      (∀ box : Mailbox Request, box.receiving = true →
        ((Traffic.heardBy id later).foldl onEvent box).queue = box.queue ++ posted id later) ∧
      (Traffic.heardBy id later).Subperm ((Traffic.lines later).map .ofLine) ∧
      ∃ pending, (posted id later ++ pending).Perm (asked later) ∧
        (Traffic.OneByOne (before ++ [.inserted (listener id handler)] ++ later) →
          posted id later ++ pending = asked later) ∧
        (Traffic.Quiet (before ++ [.inserted (listener id handler)] ++ later) →
          pending = [])) ∧
    (∀ {σ γ : Type} {settings : Settings} {now : Nat} {sink : σ} {source : γ}
        {output : Option String} {notifier : Subscriptions Audience} {s : Session σ γ},
      Session.start settings now sink source output notifier = .ok s → notifier.Sound →
      (∀ t ∈ notifier.entries, t.handler ≠ .controller) →
      s.Attached notifier.nextId ∧ s.requests = {}) ∧
    ∀ {σ γ : Type} {s : Session σ γ} {id : Nat}, s.Attached id →
      ∀ errands : List Errand, .leave id ∉ errands →
        (errands.foldl Session.attend s).Attached id ∧
        (s.requests.receiving = true →
          (errands.foldl Session.attend s).requests.queue = s.requests.queue ++
            (Errand.lines errands).filterMap fun line => Request.ofEvent? (.ofLine line)) ∧
        ∃ history b,
          Session.Passage id s (errands.foldl Session.attend s) { table := s.notifier } history b ∧
          Traffic.lines history = Errand.lines errands := by
  refine ⟨?traffic, Session.attached_start, fun attached errands stays => ?session⟩
  case traffic =>
    intro η before later b₀ b settings now id handler c table history started owned run running
    rw [start_spawned] at started
    cases started
    cases owned
    have step : Traffic.Step b₀ (.inserted (listener b₀.table.nextId handler)) _ :=
      .insert b₀ Request.watchedEvents handler
    have heard := Traffic.heard_perm history step run running
    refine ⟨fun box receiving => queue_onEvents receiving _, ?once,
      (Traffic.owed b₀.table.nextId b).filterMap Request.ofEvent?, ?all, fun oneByOne => ?order,
      fun quiet => ?none⟩
    case once =>
      exact ((List.sublist_append_left _ _).subperm.trans heard.subperm).trans
        List.filter_sublist.subperm
    case all =>
      rw [posted, ← List.filterMap_append, ← filterMap_wanted _ handler]
      exact heard.filterMap _
    case order =>
      rw [posted, ← List.filterMap_append, ← filterMap_wanted _ handler]
      exact congrArg _ (Traffic.heard_eq history step run running oneByOne).1
    case none =>
      rw [Traffic.owed_of_quiet ((history.snoc step).append run) _ quiet, List.filterMap_nil]
  case session =>
    obtain ⟨history, b, passage, attached', published⟩ := Session.attend_all attached stays
    refine ⟨attached', fun receiving => ?_, history, b, passage, published⟩
    rw [passage.queue receiving, asked, published]

/-- A panel started beside a log of all events. The log is called first; when it has gone and a
clock has come, the panel still hears what it did. -/
theorem Controller.requests_of_lines_logged :
    posted 1 [.published "workspacev2>>2,2",
      .called 0 ⟨0, ["*"], Audience.other "log"⟩ ⟨"workspacev2", "2,2"⟩,
      .called 0 (listener 1 .controller) ⟨"workspacev2", "2,2"⟩,
      .returned 0 2] = [.override "workspacev2"] ∧
    ∃ s : Session Recorder (List Monitor),
      Session.start {} 0 {} [] none ⟨1, [⟨0, ["*"], .other "log"⟩]⟩ = .ok s ∧
      s.controller.subscription = some 1 ∧
      (List.foldl Session.attend s
        [.line "workspacev2>>2,2", .join "clock" ["workspacev2"], .line "activewindow>>kitty,~",
          .leave 0, .line "workspacev2>>broken", .line "focusedmonv2>>DP-1,2\r",
          .line "monitoradded>>DP-2", .leave 2, .line "monitoraddedv2"]).requests.queue =
        [.override "workspacev2", .override "focusedmonv2", .outputsChanged, .outputsChanged] := by
  have history : Run {} [.inserted ⟨0, ["*"], Audience.other "log"⟩]
      { table := ⟨1, [⟨0, ["*"], .other "log"⟩]⟩ } :=
    Run.nil.snoc (.insert {} ["*"] (Audience.other "log"))
  refine ⟨?traffic, _, rfl, rfl, ?session⟩
  case traffic =>
    let log : Subscription Audience := ⟨0, ["*"], .other "log"⟩
    let panel : Subscription Audience := listener 1 .controller
    let event : Event := ⟨"workspacev2", "2,2"⟩
    have started : start {} 0 true Audience.controller ⟨1, [log]⟩ =
        (.ok _, ⟨2, [log, panel]⟩) := start_spawned _ _ _ _
    have parsed : Event.ofLine "workspacev2>>2,2" = event := by decide +kernel
    have chosen : Subscriptions.recipients ⟨2, [log, panel]⟩ event = [log, panel] := by
      decide +kernel
    obtain ⟨b, -, run⟩ := Traffic.run_publish { table := ⟨2, [log, panel]⟩ } "workspacev2>>2,2"
    rw [parsed, chosen] at run
    obtain ⟨-, -, pending, -, inOrder, settled⟩ :=
      requests_of_lines.1 history started rfl run (by simp)
    have none_pending : pending = [] := settled fun number bound => by
      obtain rfl : number = 0 := Nat.lt_one_iff.mp bound
      exact ⟨2, List.mem_append_right _ (List.mem_append_right _ List.mem_cons_self)⟩
    rw [none_pending, List.append_nil] at inOrder
    refine (inOrder ?_).trans (by decide +kernel)
    -- Before the only publishing none has begun.
    exact (((((Traffic.oneByOne_nil.snoc (h := .inserted log) nofun).snoc (h := .inserted panel)
      nofun).snoc (h := .published _) fun _ _ number bound => absurd bound (Nat.not_lt_zero _)).snoc
      (h := .called 0 log event) nofun).snoc (h := .called 0 panel event) nofun).snoc nofun
  case session =>
    have started : Session.start {} 0 ({} : Recorder) ([] : List Monitor) none
        ⟨1, [⟨0, ["*"], .other "log"⟩]⟩ = .ok _ := rfl
    have sound := Traffic.sound_run history Subscriptions.sound_empty
    obtain ⟨attached, -⟩ := requests_of_lines.2.1 started sound (by simp)
    obtain ⟨-, queued, -⟩ := requests_of_lines.2.2 attached
      [.line "workspacev2>>2,2", .join "clock" ["workspacev2"], .line "activewindow>>kitty,~",
        .leave 0, .line "workspacev2>>broken", .line "focusedmonv2>>DP-1,2\r",
        .line "monitoradded>>DP-2", .leave 2, .line "monitoraddedv2"] (by simp)
    exact ((queued rfl).trans (List.nil_append _)).trans (by decide +kernel)

end EdgeReveal
