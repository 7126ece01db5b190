import EdgeReveal.Proofs.Subscriptions.Traffic
import EdgeReveal.Subscriptions.Reactive
import Mathlib

/-!
# Handlers that act are traffic

A notifier works off a list of tasks, in which the calls of all publishings in progress stand one
behind the other, the latest publishing first. Read as traffic, each call is the next one of the
latest publishing that still has handlers to call. Subscribers go by keys, and which subscription a
key stands for is told from the history as well.
-/
namespace EdgeReveal

open Notifier (Task)

/-- The calls that a publishing has still to make. -/
def Publishing.ahead (p : Publishing String) : List (Nat × Call) :=
  (p.handlers.drop p.called).map fun s => (s.id, ⟨s.handler, p.event⟩)

namespace Traffic

/-- The calls of all publishings in progress, those of the latest first. -/
def ahead (publishings : List (Publishing String)) : List (Nat × Call) :=
  publishings.reverse.flatMap Publishing.ahead

/-- The calls that have been made. -/
def callsIn (history : List (Happening String)) : List Call :=
  history.filterMap fun
    | .called _ s event => some ⟨s.handler, event⟩
    | _ => none

theorem callsIn_append (before after : List (Happening String)) :
    callsIn (before ++ after) = callsIn before ++ callsIn after := List.filterMap_append

theorem ahead_concat (publishings : List (Publishing String)) (p : Publishing String) :
    ahead (publishings ++ [p]) = p.ahead ++ ahead publishings := by
  simp [ahead]

theorem ahead_eq_nil {publishings : List (Publishing String)} :
    ahead publishings = [] ↔ ∀ p ∈ publishings, p.ahead = [] := by
  simp only [ahead, List.flatMap_eq_nil_iff, List.mem_reverse]

/-- The first call of all that are still to be made is the next one of some publishing. -/
theorem next_of_ahead {publishings : List (Publishing String)} {id : Nat} {call : Call}
    {rest : List (Nat × Call)} (first : ahead publishings = (id, call) :: rest) :
    ∃ number p s, publishings[number]? = some p ∧ p.handlers[p.called]? = some s ∧ s.id = id ∧
      call = ⟨s.handler, p.event⟩ ∧
      ahead (publishings.set number { p with called := p.called + 1 }) = rest := by
  induction publishings using List.reverseRecOn with
  | nil => simp [ahead] at first
  | append_singleton front p ih =>
    rw [ahead_concat] at first
    cases own : p.handlers.drop p.called with
    | nil =>
      have none_own : p.ahead = [] := by rw [Publishing.ahead, own, List.map_nil]
      rw [none_own, List.nil_append] at first
      obtain ⟨number, q, s, there, next, same, made, others⟩ := ih first
      have bound := (List.getElem?_eq_some_iff.mp there).1
      refine ⟨number, q, s, by rwa [List.getElem?_append_left bound], next, same, made, ?_⟩
      rw [List.set_append_left _ _ bound, ahead_concat, none_own, List.nil_append, others]
    | cons s later =>
      rw [Publishing.ahead, own, List.map_cons, List.cons_append, List.cons.injEq] at first
      obtain ⟨made, others⟩ := first
      have next : p.handlers[p.called]? = some s := by
        rw [← List.head?_drop, own, List.head?_cons]
      have after : p.handlers.drop (p.called + 1) = later := by
        rw [← List.tail_drop, own, List.tail_cons]
      cases made
      refine ⟨front.length, p, s, List.getElem?_concat_length, next, rfl, rfl, ?_⟩
      rw [List.set_append_right _ _ (Nat.le_refl _), Nat.sub_self, List.set_cons_zero, ahead_concat,
        ← others, Publishing.ahead, after]

/-- The calls among the tasks, in their order. -/
def callsAhead (tasks : List Task) : List (Nat × Call) :=
  tasks.filterMap fun
    | .call id call => some (id, call)
    | .act _ => none

theorem callsAhead_callTasks (recipients : List (Subscription String)) (event : Event)
    (tasks : List Task) :
    callsAhead (Notifier.callTasks recipients event ++ tasks) =
      (recipients.map fun s => (s.id, ⟨s.handler, event⟩)) ++ callsAhead tasks := by
  simp [callsAhead, Notifier.callTasks, List.filterMap_append, List.filterMap_map]

/-! ### Who goes by a key -/

/-- The subscription that has been inserted last under a key, removed since or not. -/
def Latest (key : String) (history : List (Happening String)) (id : Nat) : Prop :=
  ∃ before s after, history = before ++ .inserted s :: after ∧ s.handler = key ∧ s.id = id ∧
    ∀ s', .inserted s' ∈ after → s'.handler ≠ key

/-- The keys with the ids given out under them, latest first. -/
def keyed (history : List (Happening String)) : List (String × Nat) :=
  (history.filterMap fun
    | .inserted s => some (s.handler, s.id)
    | _ => none).reverse

theorem keyed_append (before after : List (Happening String)) :
    keyed (before ++ after) = keyed after ++ keyed before := by
  rw [keyed, List.filterMap_append, List.reverse_append]
  rfl

theorem mem_keyed {history : List (Happening String)} {key : String} {id : Nat} :
    (key, id) ∈ keyed history ↔ ∃ s, .inserted s ∈ history ∧ s.handler = key ∧ s.id = id := by
  rw [keyed, List.mem_reverse, List.mem_filterMap]
  constructor
  · rintro ⟨h, within, same⟩
    cases h with
    | inserted s =>
      cases same
      exact ⟨s, within, rfl, rfl⟩
    | removed | asked | published | called | returned => cases same
  · rintro ⟨s, within, rfl, rfl⟩
    exact ⟨_, within, rfl⟩

theorem Latest.inserted {key : String} {id : Nat} (before : List (Happening String))
    {s : Subscription String} (under : s.handler = key) (own : s.id = id) :
    Latest key (before ++ [.inserted s]) id :=
  ⟨before, s, [], rfl, under, own, nofun⟩

theorem Latest.snoc {key : String} {id : Nat} {before : List (Happening String)}
    (latest : Latest key before id) {h : Happening String}
    (other : ∀ s, h = .inserted s → s.handler ≠ key) : Latest key (before ++ [h]) id := by
  obtain ⟨early, s, late, rfl, under, own, last⟩ := latest
  refine ⟨early, s, late ++ [h], by simp, under, own, fun s' within => ?_⟩
  rcases List.mem_append.mp within with within | within
  · exact last s' within
  · exact other s' (List.mem_singleton.mp within).symm

/-- The first entry of a key is the latest of its subscriptions. -/
theorem latest_of_find {key : String} {history : List (Happening String)} {entry : String × Nat}
    (found : (keyed history).find? (·.1 == key) = some entry) : Latest key history entry.2 := by
  induction history using List.reverseRecOn with
  | nil => simp [keyed] at found
  | append_singleton history h ih =>
    rw [keyed_append] at found
    cases h with
    | inserted s =>
      rw [show keyed [.inserted s] = [(s.handler, s.id)] from rfl, List.singleton_append,
        List.find?_cons] at found
      split at found
      next own =>
        cases found
        exact .inserted history (beq_iff_eq.mp own) rfl
      next other =>
        refine (ih found).snoc fun s' same => ?_
        cases same
        exact beq_eq_false_iff_ne.mp other
    | removed | asked | published | called | returned => exact (ih found).snoc nofun

/-! ### Tasks worked off -/

/-- From `n` to `n'` there is traffic at the table, and all calls begun are made by then. Nothing
has returned yet: what a publishing returns is for the one who asked for it. -/
structure Leads (b : Traffic String) (n n' : Notifier) (history : List (Happening String))
    (b' : Traffic String) : Prop where
  run : Run b history b'
  table : b'.table = n'.table
  idle : ahead b'.publishings = []
  calls : n'.calls = n.calls ++ callsIn history
  latest : n'.latest = keyed history ++ n.latest
  silent : ∀ number count, .returned number count ∉ history

theorem leads_cons {b b₁ : Traffic String} {n n₁ n' : Notifier} {h : Happening String}
    (step : Step b h b₁) (later : ∃ history b', Leads b₁ n₁ n' history b')
    (calls : n₁.calls = n.calls ++ callsIn [h]) (latest : n₁.latest = keyed [h] ++ n.latest)
    (going : ∀ number count, h ≠ .returned number count) :
    ∃ history b', Leads b n n' history b' := by
  obtain ⟨history, b', later⟩ := later
  refine ⟨[h] ++ history, b', (Run.nil.snoc step).append later.run, later.table, later.idle, ?_, ?_,
    ?_⟩
  · rw [later.calls, calls, callsIn_append, List.append_assoc]
  · rw [later.latest, latest, keyed_append, List.append_assoc]
  · intro number count within
    rcases List.mem_append.mp within with first | within
    · exact going number count (List.mem_singleton.mp first).symm
    · exact later.silent number count within

/-- What a notifier does with its tasks is traffic at its table. -/
theorem leads_work {n : Notifier} {tasks : List Task} {b : Traffic String}
    (same : b.table = n.table) (behind : callsAhead tasks = ahead b.publishings) :
    ∃ history b', Leads b n (n.work tasks) history b' := by
  -- Along the recursion of `work`: the calls among the tasks stay those that are ahead.
  fun_induction Notifier.work n tasks generalizing b with
  | case1 n => exact ⟨[], b, .nil, same, behind.symm, by simp [callsIn], rfl, by simp⟩
  | case2 n id call rest quiet ih | case3 n id call rest action left taken ih =>
    obtain ⟨number, p, s, there, next, rfl, rfl, others⟩ := next_of_ahead behind.symm
    exact leads_cons (.call there next) (ih same others.symm) rfl rfl (by simp)
  | case4 n key events reaction rest ih =>
    have table : (b.table.insert events key).2 = (n.subscribe key events reaction).table := by
      rw [same]
      rfl
    refine leads_cons (.insert b events key) (ih table behind) ?_ ?_ (by simp)
    · simp [callsIn, Notifier.subscribe]
    · rw [same]
      rfl
  | case5 n key rest ih =>
    unfold Notifier.unsubscribe at ih ⊢
    split at ih
    next => exact ih same behind
    next id _ =>
      have table : (b.table.remove id).2 = (n.table.remove id).2 := by rw [same]
      exact leads_cons (.remove b id) (ih table behind) (by simp [callsIn]) rfl (by simp)
  | case6 n line rest event =>
    rename_i ih
    have chosen : (n.table.recipients event).Perm (b.table.recipients event) := by rw [same]
    have behind' : callsAhead (Notifier.callTasks (n.table.recipients event) event ++ rest) =
        ahead (b.publishings ++ [⟨event, n.table.recipients event, 0, false⟩]) := by
      rw [callsAhead_callTasks, ahead_concat, ← behind]
      rfl
    exact leads_cons (.publish b line chosen) (ih same behind') (by simp [callsIn]) rfl (by simp)

/-- A publishing keeps what it has chosen, and is open until its return is heard of. -/
theorem kept_run {b b' : Traffic String} {history : List (Happening String)} {number : Nat}
    {p : Publishing String} (run : Run b history b') (there : b.publishings[number]? = some p)
    (going : p.returned = false) (silent : ∀ number count, .returned number count ∉ history) :
    ∃ p', b'.publishings[number]? = some p' ∧ p'.handlers = p.handlers ∧ p'.returned = false := by
  induction run with
  | nil => exact ⟨p, there, rfl, going⟩
  | @snoc history b b' h run step ih =>
    obtain ⟨p₁, there₁, handlers, open₁⟩ :=
      ih fun number count within => silent number count (List.mem_append_left _ within)
    obtain ⟨same, -⟩ | ⟨s, -, -, moved⟩ | ⟨-, -, rfl, -⟩ := step_publishing there₁ step
    · exact ⟨p₁, same, handlers, open₁⟩
    · exact ⟨_, moved, handlers, open₁⟩
    · exact absurd (List.mem_append_right _ (List.mem_singleton.mpr rfl)) (silent _ _)

/-- What one action from outside has done behind a history, against what it reports. -/
def Reported (before history : List (Happening String)) : Action → ActionResult → Prop
  | .subscribe key events _, .done => ∃ id, history = [.inserted ⟨id, events, key⟩]
  | .unsubscribe key, .removed was =>
    ((∀ s, .inserted s ∈ before → s.handler ≠ key) ∧ history = [] ∧ was = false) ∨
      ∃ id, Latest key before id ∧ history = [.removed id was]
  | .publish line, .delivered count =>
    ∃ between, history = .published line :: between ++ [.returned (begun before) count]
  | _, _ => False

/-- A notifier between two actions, as the traffic that has led to it. -/
structure Mirrors (n : Notifier) (history : List (Happening String)) (b : Traffic String) :
    Prop where
  run : Run {} history b
  table : b.table = n.table
  calls : n.calls = callsIn history
  latest : n.latest = keyed history
  idle : ahead b.publishings = []

theorem mirrors_empty : Mirrors {} [] {} := ⟨.nil, rfl, rfl, rfl, rfl⟩

theorem Mirrors.append {n n' : Notifier} {before history : List (Happening String)}
    {b b' : Traffic String} (mirrors : Mirrors n before b) (run : Run b history b')
    (table : b'.table = n'.table) (calls : n'.calls = n.calls ++ callsIn history)
    (latest : n'.latest = keyed history ++ n.latest) (idle : ahead b'.publishings = []) :
    Mirrors n' (before ++ history) b' where
  run := mirrors.run.append run
  table := table
  calls := by rw [calls, mirrors.calls, callsIn_append]
  latest := by rw [latest, mirrors.latest, keyed_append]
  idle := idle

theorem Mirrors.perform {n : Notifier} {before : List (Happening String)} {b : Traffic String}
    (mirrors : Mirrors n before b) (action : Action) :
    ∃ history b', Mirrors (n.perform action).2 (before ++ history) b' ∧
      Reported before history action (n.perform action).1 := by
  have same := mirrors.table
  cases action with
  | subscribe key events reaction =>
    refine ⟨_, _, mirrors.append (Run.nil.snoc (.insert b events key)) ?table ?calls ?latest
      mirrors.idle, _, rfl⟩
    case calls => simp [callsIn, Notifier.perform, Notifier.subscribe]
    all_goals
      rw [same]
      rfl
  | unsubscribe key =>
    cases found : n.latest.find? (·.1 == key) with
    | none =>
      simp only [Notifier.perform, Notifier.unsubscribe, found]
      refine ⟨[], b, mirrors.append .nil same (by simp [callsIn]) rfl mirrors.idle,
        .inl ⟨fun s inserted under => ?_, rfl, rfl⟩⟩
      rw [mirrors.latest] at found
      exact List.find?_eq_none.mp found _ (mem_keyed.mpr ⟨s, inserted, rfl, rfl⟩)
        (beq_iff_eq.mpr under)
    | some latest =>
      simp only [Notifier.perform, Notifier.unsubscribe, found]
      rw [← same]
      exact ⟨_, _, mirrors.append (Run.nil.snoc (.remove b latest.2)) rfl (by simp [callsIn]) rfl
        mirrors.idle, .inr ⟨_, latest_of_find (mirrors.latest ▸ found), rfl⟩⟩
  | publish line =>
    have unfolded : (n.perform (.publish line)).2 =
        n.work (Notifier.callTasks (n.table.recipients (.ofLine line)) (.ofLine line) ++ []) := by
      rw [Notifier.perform, Notifier.work]
    have chosen : (n.table.recipients (.ofLine line)).Perm
        (b.table.recipients (.ofLine line)) := by rw [same]
    have begins := Step.publish b line chosen
    have behind :
        callsAhead (Notifier.callTasks (n.table.recipients (.ofLine line)) (.ofLine line) ++ []) =
          ahead (b.publishings ++
            [⟨.ofLine line, n.table.recipients (.ofLine line), 0, false⟩]) := by
      rw [callsAhead_callTasks, ahead_concat, mirrors.idle]
      rfl
    obtain ⟨history, b', later⟩ :=
      leads_work (b := { b with publishings := b.publishings ++ [_] }) (n := n) same behind
    obtain ⟨p, there, handlers, going⟩ :=
      kept_run later.run List.getElem?_concat_length rfl later.silent
    have within := List.mem_of_getElem? there
    have steady : b'.Steady := ((steady_run mirrors.run).step begins).run later.run
    -- The tasks are worked off, so the publishing has called everybody and may return.
    have done : p.called = p.handlers.length :=
      Nat.le_antisymm (steady p within).1
        (List.drop_eq_nil_iff.mp (List.map_eq_nil_iff.mp (ahead_eq_nil.mp later.idle p within)))
    refine ⟨_, _, mirrors.append (((Run.nil.snoc begins).append later.run).snoc
      (.finish there done going)) ?_ ?_ ?_ ?_, history, ?_⟩
    · rw [later.table, unfolded]
    · rw [unfolded, later.calls, callsIn_append, callsIn_append]
      simp [callsIn]
    · rw [unfolded, later.latest, keyed_append, keyed_append]
      simp [keyed]
    · refine ahead_eq_nil.mpr fun q among => ?_
      rcases List.mem_or_eq_of_mem_set among with old | rfl
      · exact ahead_eq_nil.mp later.idle q old
      · exact ahead_eq_nil.mp later.idle p within
    · rw [handlers, length_publishings mirrors.run, List.length_nil, Nat.zero_add]
      rfl

theorem mirrors_all (actions : List Action) :
    ∃ history b, Mirrors (actions.foldl (fun n action => (n.perform action).2) {}) history b := by
  induction actions using List.reverseRecOn with
  | nil => exact ⟨[], {}, mirrors_empty⟩
  | append_singleton actions action ih =>
    obtain ⟨before, b, mirrors⟩ := ih
    obtain ⟨history, b', mirrors', -⟩ := mirrors.perform action
    rw [List.foldl_append, List.foldl_cons, List.foldl_nil]
    exact ⟨before ++ history, b', mirrors'⟩

/-- Whatever happens at a table, in whatever order and while whichever publishings are under way:
every happening reports what the history before it says, and every publishing that has not returned
can go on. The actions that a notifier performs, with all that the handlers do that it calls on the
way, are such happenings. -/
theorem every_report_accounted {η : Type} :
    (∀ {before : List (Happening η)} {b b' : Traffic η} {h : Happening η},
      Run {} before b → Step b h b' → Accounts before b b' h) ∧
    (∀ {before early : List (Happening η)} {b : Traffic η} {number : Nat} {line : String},
      Run {} before b → Open number line early before →
      ∃ h b', Step b h b' ∧
        ((∃ s event, h = .called number s event) ∨ ∃ count, h = .returned number count)) ∧
    ∀ (actions : List Action) (action : Action),
      ∃ n before b history b',
        n = actions.foldl (fun n action => (n.perform action).2) ({} : Notifier) ∧
        Mirrors n before b ∧ Mirrors (n.perform action).2 (before ++ history) b' ∧
        Reported before history action (n.perform action).1 := by
  refine ⟨accounts, goes_on, fun actions action => ?_⟩
  obtain ⟨before, b, mirrors⟩ := mirrors_all actions
  obtain ⟨history, b', mirrors', reported⟩ := mirrors.perform action
  exact ⟨_, before, b, history, b', rfl, mirrors, mirrors', reported⟩

/-- A log removes a bar while both are being called. The bar is still called, for it was there when
the publishing began; removing it once more finds nothing. -/
theorem every_report_accounted_removed :
    (∃ b b' : Traffic String, b.table.entries = [⟨0, ["*"], "log"⟩] ∧
      Accounts [.inserted ⟨0, ["*"], "log"⟩, .inserted ⟨1, ["a"], "bar"⟩, .published "a>>1",
        .called 0 ⟨0, ["*"], "log"⟩ ⟨"a", "1"⟩, .removed 1 true] b b'
          (.called 0 ⟨1, ["a"], "bar"⟩ ⟨"a", "1"⟩) ∧
      ∃ h b', Step b h b' ∧
        ((∃ s event, h = .called 0 s event) ∨ ∃ count, h = .returned 0 count)) ∧
    ∃ n before b id b', n.calls = [⟨"log", ⟨"a", "1"⟩⟩, ⟨"bar", ⟨"a", "1"⟩⟩] ∧
      Mirrors n before b ∧ Latest "bar" before id ∧
      Mirrors (n.perform (.unsubscribe "bar")).2 (before ++ [.removed id false]) b' := by
  refine ⟨?called, ?unsubscribed⟩
  case called =>
    let log : Subscription String := ⟨0, ["*"], "log"⟩
    let bar : Subscription String := ⟨1, ["a"], "bar"⟩
    let event : Event := ⟨"a", "1"⟩
    have parsed : Event.ofLine "a>>1" = event := by decide +kernel
    have chosen : Subscriptions.recipients ⟨2, [log, bar]⟩ event = [log, bar] := by decide +kernel
    have begins := Step.publish { table := ⟨2, [log, bar]⟩ } "a>>1" (.of_eq (parsed ▸ chosen.symm))
    rw [parsed] at begins
    have first : Step ⟨⟨2, [log, bar]⟩, [⟨event, [log, bar], 0, false⟩]⟩ (.called 0 log event) _ :=
      .call (p := ⟨event, [log, bar], 0, false⟩) rfl rfl
    have second : Step ⟨⟨2, [log]⟩, [⟨event, [log, bar], 1, false⟩]⟩ (.called 0 bar event) _ :=
      .call (p := ⟨event, [log, bar], 1, false⟩) rfl rfl
    have run : Run {} [.inserted log, .inserted bar, .published "a>>1", .called 0 log event,
        .removed 1 true] _ :=
      ((((Run.nil.snoc (.insert {} ["*"] "log")).snoc (.insert _ ["a"] "bar")).snoc begins).snoc
        first).snoc (.remove _ 1)
    have opened : Open 0 "a>>1" [.inserted log, .inserted bar] [.inserted log, .inserted bar,
        .published "a>>1", .called 0 log event, .removed 1 true] := ⟨rfl, ⟨_, rfl⟩, by simp⟩
    exact ⟨_, _, rfl, every_report_accounted.1 run second, every_report_accounted.2.1 run opened⟩
  case unsubscribed =>
    obtain ⟨n, before, b, history, b', at_start, mirrors, mirrors', reported⟩ :=
      (every_report_accounted (η := String)).2.2
        [.subscribe "log" ["*"] (some (.unsubscribe "bar")), .subscribe "bar" ["a"] none,
          .publish "a>>1"] (.unsubscribe "bar")
    have calls : n.calls = [⟨"log", ⟨"a", "1"⟩⟩, ⟨"bar", ⟨"a", "1"⟩⟩] := by
      rw [at_start]
      cbv
    have latest : n.latest = [("bar", 1), ("log", 0)] := by
      rw [at_start]
      cbv
    have was : (n.perform (.unsubscribe "bar")).1 = .removed false := by
      rw [at_start]
      cbv
    rw [was] at reported
    rw [mirrors.latest] at latest
    obtain ⟨never, -⟩ | ⟨id, under, rfl⟩ := reported
    · obtain ⟨s, inserted, bar, -⟩ := mem_keyed.mp (latest ▸ List.mem_cons_self)
      exact absurd bar (never s inserted)
    · exact ⟨n, before, b, id, b', calls, mirrors, under, mirrors'⟩

end Traffic

end EdgeReveal
