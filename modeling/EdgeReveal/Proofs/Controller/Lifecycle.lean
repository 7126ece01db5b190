import EdgeReveal.Proofs.Controller.Requests
import EdgeReveal.Proofs.Controller.Thread

/-!
# Controllers come and go

Any number of controllers share one table with subscriptions of others. Each is started, which may
fail, and stopped, which may be repeated; dropping a controller stops it. A controller that runs has
one entry in the table and a thread; one that has been stopped has neither.
-/
namespace EdgeReveal

/-! ### Controllers at one table -/

theorem Controller.start_refused {η : Type} (settings : Settings) (now : Nat) (handler : η)
    (table : Subscriptions η) :
    start settings now false handler table =
      (.error .spawnSampler,
        ((table.insert Request.watchedEvents handler).2.remove table.nextId).2) := rfl

/-- A controller with its thread; `gone` once it has been dropped. -/
structure Member where
  controller : Controller
  thread : SamplerThread
  gone : Bool := false

structure Controllers (η : Type) where
  table : Subscriptions η := {}
  members : List Member := []

theorem Controller.stop_some {η : Type} {c : Controller} {id : Nat} {table : Subscriptions η}
    (holds : c.subscription = some id) :
    c.stop table = ({ c with sampler := none, subscription := none }, (table.remove id).2) := by
  simp only [stop, holds]

/-- A controller that runs has a subscription; the thread of one that does not has ended. -/
structure Member.Sane (m : Member) : Prop where
  running : m.controller.isRunning = m.controller.subscription.isSome
  ended : m.controller.isRunning = false → m.thread.stance = .ended

/-- Stopping once more changes nothing. -/
theorem Member.Sane.stop_again {η : Type} {m : Member} (sane : m.Sane)
    (holds : m.controller.subscription = none) (table : Subscriptions η) :
    m.controller.stop table = (m.controller, table) := by
  have idle : m.controller.sampler = none := by
    have running := sane.running
    rw [holds] at running
    exact Option.not_isSome_iff_eq_none.mp (by simpa [Controller.isRunning] using running)
  obtain ⟨⟨settings, interval, sampler, subscription⟩, thread, gone⟩ := m
  cases holds
  cases idle
  rfl

namespace Controllers

/-- What is done to the table or to a controller. Controllers go by the order of their start. -/
inductive Move (η : Type) where
  | started (s : Subscription η)
  | refused (fault : StartFault)
  | raised (n : Nat)
  | hungUp (n : Nat)
  | acted (n : Nat)
  | stirred (n : Nat)
  | stopped (n : Nat) (dropped : Bool)
  | inserted (s : Subscription η)
  | removed (id : Nat)

variable {η : Type}

/-- The subscriptions that controllers have not given up. -/
def held (w : Controllers η) : List Nat := w.members.filterMap (·.controller.subscription)

def put (w : Controllers η) (n : Nat) (m : Member) : Controllers η :=
  { w with members := w.members.set n m }

/-- A stop is three moves: it raises the flag, hangs up, and gives up what the controller holds once
the thread has ended. The thread and everybody else go on meanwhile, but nobody else uses the
controller. Others stir what they share with a thread, and remove what is theirs. -/
inductive Step : Controllers η → Move η → Controllers η → Prop
  | start (w : Controllers η) {settings : Settings} {now id : Nat} {handler : η} {c : Controller}
      {machine : Machine} {table : Subscriptions η} (requests : Mailbox Request)
      (begun : Controller.start settings now true handler w.table = (.ok c, table))
      (sampling : c.sampler = some machine) (subscribed : c.subscription = some id) :
      Step w (.started (Controller.listener id handler))
        { table := table
          members := w.members ++ [{
            controller := c
            thread := { scene := { machine := machine, requests := requests } } }] }
  | refuse (w : Controllers η) {settings : Settings} {now : Nat} {handler : η} {fault : StartFault}
      {table : Subscriptions η}
      (failed : Controller.start settings now false handler w.table = (.error fault, table)) :
      Step w (.refused fault) { w with table := table }
  | raise {w : Controllers η} {n : Nat} {m : Member} (there : w.members[n]? = some m)
      (running : m.controller.isRunning = true) :
      Step w (.raised n) (w.put n { m with thread := m.thread.raise })
  | hangUp {w : Controllers η} {n : Nat} {m : Member} (there : w.members[n]? = some m)
      (running : m.controller.isRunning = true) (raised : m.thread.exit = true) :
      Step w (.hungUp n) (w.put n { m with thread := m.thread.hangUp })
  | act {w : Controllers η} {n : Nat} {m : Member} (there : w.members[n]? = some m)
      (alive : m.thread.stance ≠ .ended) (sample : Sample) (late : Bool) :
      Step w (.acted n) (w.put n { m with thread := m.thread.act sample late })
  | stir {w : Controllers η} {n : Nat} {m : Member} (there : w.members[n]? = some m)
      (shared : Shared) (requests : Mailbox Request) :
      Step w (.stirred n) (w.put n { m with
        thread := { m.thread with
          scene := { m.thread.scene with shared := shared, requests := requests } } })
  | stop {w : Controllers η} {n : Nat} {m : Member} (dropped : Bool)
      (there : w.members[n]? = some m) (present : m.gone = false)
      (joined : m.controller.isRunning = true → m.thread.Halted ∧ m.thread.stance = .ended) :
      Step w (.stopped n dropped)
        { table := (m.controller.stop w.table).2
          members := w.members.set n
            { m with controller := (m.controller.stop w.table).1, gone := dropped } }
  | insert (w : Controllers η) (events : List String) (handler : η) :
      Step w (.inserted ⟨(w.table.insert events handler).1, events, handler⟩)
        { w with table := (w.table.insert events handler).2 }
  | remove (w : Controllers η) {id : Nat} (foreign : id ∉ w.held) :
      Step w (.removed id) { w with table := (w.table.remove id).2 }

inductive Run (start : Controllers η) : List (Move η) → Controllers η → Prop
  | nil : Run start [] start
  | snoc {history : List (Move η)} {w w' : Controllers η} {move : Move η}
      (run : Run start history w) (step : Step w move w') : Run start (history ++ [move]) w'

/-- The ids of the controllers' subscriptions. -/
def ids (history : List (Move η)) : List Nat :=
  history.filterMap fun
    | .started s => some s.id
    | _ => none

theorem ids_append (before after : List (Move η)) :
    ids (before ++ after) = ids before ++ ids after := List.filterMap_append

theorem mem_ids {history : List (Move η)} {id : Nat} :
    id ∈ ids history ↔ ∃ s, .started s ∈ history ∧ s.id = id := by
  simp only [ids, List.mem_filterMap]
  constructor
  · rintro ⟨move, within, same⟩
    cases move with
    | started s => exact ⟨s, within, Option.some.inj same⟩
    | refused | raised | hungUp | acted | stirred | stopped | inserted | removed => cases same
  · rintro ⟨s, within, rfl⟩
    exact ⟨_, within, rfl⟩

/-! ### What every move keeps -/

/-- The controllers hold as many entries as there are, each its own. -/
structure Kept (history : List (Move η)) (w : Controllers η) : Prop where
  sound : w.table.Sound
  given : ∀ id ∈ ids history, id < w.table.nextId
  distinct : w.held.Nodup
  entered : ∀ id ∈ w.held, ∃ s ∈ w.table.entries, s.id = id ∧ .started s ∈ history
  owned : ∀ s ∈ w.table.entries, s.id ∈ ids history → s.id ∈ w.held
  members : ∀ m ∈ w.members, m.Sane

variable {history : List (Move η)} {w w' : Controllers η} {n : Nat} {m m' : Member}

theorem put_self (there : w.members[n]? = some m) : w.put n m = w := by
  obtain ⟨bound, rfl⟩ := List.getElem?_eq_some_iff.mp there
  rw [put, List.set_getElem_self]

/-- A controller's place among what is held depends on the others alone. -/
theorem held_put (there : w.members[n]? = some m) :
    ∃ front back, ∀ m' : Member,
      (w.put n m').held = front ++ m'.controller.subscription.toList ++ back := by
  have bound := (List.getElem?_eq_some_iff.mp there).1
  refine ⟨(w.members.take n).filterMap (·.controller.subscription),
    (w.members.drop (n + 1)).filterMap (·.controller.subscription), fun m' => ?_⟩
  rw [held, put, List.set_eq_take_append_cons_drop, if_pos bound, List.filterMap_append,
    List.filterMap_cons]
  cases m'.controller.subscription <;> simp

/-- Whoever gives up a subscription leaves to the others what they hold. -/
theorem held_given_up {id : Nat} (there : w.members[n]? = some m)
    (holds : m.controller.subscription = some id) :
    ∃ front back, w.held = front ++ id :: back ∧
      ∀ {m' : Member} {table : Subscriptions η}, m'.controller.subscription = none →
        held { table := table, members := w.members.set n m' } = front ++ back := by
  obtain ⟨front, back, placed⟩ := held_put there
  refine ⟨front, back, ?_, fun {m'} _ given_up => ?_⟩
  · rw [← put_self there, placed, holds, Option.toList_some, List.append_assoc]
    rfl
  · have itself := placed m'
    rw [given_up, Option.toList_none, List.append_nil] at itself
    exact itself

theorem held_concat {table : Subscriptions η} {id : Nat}
    (subscribed : m.controller.subscription = some id) :
    held { table := table, members := w.members ++ [m] } = w.held ++ [id] := by
  rw [held, List.filterMap_append, List.filterMap_cons, subscribed]
  rfl

/-- A move that starts nothing gives out no id. -/
theorem Kept.pass {move : Move η} (kept : Kept history w) (other : ids [move] = []) :
    Kept (history ++ [move]) w where
  sound := kept.sound
  given := by simpa [ids_append, other] using kept.given
  distinct := kept.distinct
  entered id within := by
    obtain ⟨s, entry, same, started⟩ := kept.entered id within
    exact ⟨s, entry, same, List.mem_append_left _ started⟩
  owned := by simpa [ids_append, other] using kept.owned
  members := kept.members

/-- What happens to a thread alone touches nothing that is held. -/
theorem held_thread (there : w.members[n]? = some m) (same : m'.controller = m.controller) :
    (w.put n m').held = w.held := by
  obtain ⟨front, back, placed⟩ := held_put there
  have itself := placed m
  rw [put_self there] at itself
  rw [placed, same, itself]

theorem Kept.thread (kept : Kept history w) (there : w.members[n]? = some m)
    (same : m'.controller = m.controller)
    (ended : m.thread.stance = .ended → m'.thread.stance = .ended) :
    Kept history (w.put n m') := by
  have held := held_thread there same
  refine ⟨kept.sound, kept.given, held ▸ kept.distinct, held ▸ kept.entered, held ▸ kept.owned, ?_⟩
  intro m₁ within
  rcases List.mem_or_eq_of_mem_set within with old | rfl
  · exact kept.members m₁ old
  · have sane := kept.members m (List.mem_of_getElem? there)
    exact ⟨same ▸ sane.running, fun stopped => ended (sane.ended (same ▸ stopped))⟩

/-- Others take out no entry that a controller holds, and put in none with an old id. -/
theorem Kept.others {table : Subscriptions η} (kept : Kept history w) (sound : table.Sound)
    (grown : w.table.nextId ≤ table.nextId)
    (left : ∀ s ∈ w.table.entries, s.id ∈ w.held → s ∈ table.entries)
    (fresh : ∀ s ∈ table.entries, s ∈ w.table.entries ∨ w.table.nextId ≤ s.id) :
    Kept history { w with table := table } where
  sound := sound
  given id old := Nat.lt_of_lt_of_le (kept.given id old) grown
  distinct := kept.distinct
  entered id within := by
    obtain ⟨s, entry, rfl, started⟩ := kept.entered id within
    exact ⟨s, left s entry within, rfl, started⟩
  owned s entry among := by
    rcases fresh s entry with old | new
    · exact kept.owned s old among
    · exact absurd (kept.given s.id among) (Nat.not_lt.mpr new)
  members := kept.members

theorem Kept.start {c : Controller} {thread : SamplerThread} {handler : η} (kept : Kept history w)
    (running : c.isRunning = true) (subscribed : c.subscription = some w.table.nextId) :
    Kept (history ++ [.started (Controller.listener w.table.nextId handler)])
      { table := (w.table.insert Request.watchedEvents handler).2
        members := w.members ++ [{ controller := c, thread := thread }] } where
  sound := kept.sound.insert _ _
  given id among := by
    rw [ids_append, List.mem_append] at among
    rcases among with old | new
    · exact Nat.lt_succ_of_lt (kept.given id old)
    · obtain rfl := List.mem_singleton.mp new
      exact Nat.lt_succ_self _
  distinct := by
    rw [held_concat subscribed, List.nodup_append']
    refine ⟨kept.distinct, List.nodup_singleton _, List.disjoint_singleton.mpr fun within => ?_⟩
    obtain ⟨s, entry, same, -⟩ := kept.entered _ within
    exact Nat.ne_of_lt (kept.sound.given s entry) same
  entered id within := by
    rw [held_concat subscribed, List.mem_append] at within
    rcases within with old | new
    · obtain ⟨s, entry, same, started⟩ := kept.entered id old
      exact ⟨s, List.mem_append_left _ entry, same, List.mem_append_left _ started⟩
    · obtain rfl := List.mem_singleton.mp new
      exact ⟨_, List.mem_append_right _ List.mem_cons_self, rfl,
        List.mem_append_right _ List.mem_cons_self⟩
  owned s entry among := by
    rw [held_concat subscribed, List.mem_append]
    rcases Subscriptions.mem_insert.mp entry with old | rfl
    · rw [ids_append, List.mem_append] at among
      rcases among with among | among
      · exact .inl (kept.owned s old among)
      · exact absurd (List.mem_singleton.mp among) (Nat.ne_of_lt (kept.sound.given s old))
    · exact .inr (List.mem_singleton.mpr rfl)
  members m within := by
    rcases List.mem_append.mp within with old | new
    · exact kept.members m old
    · obtain rfl := List.mem_singleton.mp new
      exact ⟨by rw [running, subscribed]; rfl, fun stopped => by simp [running] at stopped⟩

theorem Kept.stop (kept : Kept history w) (there : w.members[n]? = some m) (dropped : Bool)
    (joined : m.controller.isRunning = true → m.thread.stance = .ended) :
    Kept history
      { table := (m.controller.stop w.table).2
        members := w.members.set n
          { m with controller := (m.controller.stop w.table).1, gone := dropped } } := by
  have sane := kept.members m (List.mem_of_getElem? there)
  cases holds : m.controller.subscription with
  | none =>
    rw [sane.stop_again holds]
    exact kept.thread there rfl id
  | some id =>
    rw [Controller.stop_some holds]
    obtain ⟨front, back, before, after⟩ := held_given_up there holds
    -- The id is held at one place only, so it is not held any more.
    have distinct := kept.distinct
    rw [before, List.nodup_middle, List.nodup_cons] at distinct
    refine ⟨kept.sound.remove id, kept.given, ?_, ?_, ?_, ?_⟩
    · rw [after rfl]
      exact distinct.2
    · rw [after rfl]
      intro id' within
      have within' : id' ∈ w.held := by
        rw [before, List.perm_middle.mem_iff]
        exact List.mem_cons_of_mem _ within
      obtain ⟨s, entry, rfl, started⟩ := kept.entered id' within'
      refine ⟨s, Subscriptions.mem_remove.mpr ⟨entry, ?_⟩, rfl, started⟩
      rintro rfl
      exact distinct.1 within
    · rw [after rfl]
      intro s entry among
      obtain ⟨entry, other⟩ := Subscriptions.mem_remove.mp entry
      have within := kept.owned s entry among
      rw [before, List.perm_middle.mem_iff, List.mem_cons] at within
      exact within.resolve_left other
    · intro m₁ within
      rcases List.mem_or_eq_of_mem_set within with old | rfl
      · exact kept.members m₁ old
      · exact ⟨rfl, fun _ => joined (by rw [sane.running, holds]; rfl)⟩

theorem Kept.step {move : Move η} (kept : Kept history w) (step : Step w move w') :
    Kept (history ++ [move]) w' := by
  cases step with
  | start requests begun sampling subscribed =>
    rw [Controller.start_spawned] at begun
    cases begun
    cases subscribed
    exact kept.start rfl rfl
  | @refuse settings now handler fault table failed =>
    rw [Controller.start_refused] at failed
    cases failed
    have same := kept.sound.entries_remove_insert Request.watchedEvents handler
    refine Kept.others (kept.pass rfl) ((kept.sound.insert _ _).remove _) (Nat.le_succ _) ?_ ?_
    · exact fun s entry _ => same.symm ▸ entry
    · exact fun s entry => .inl (same ▸ entry)
  | raise there running => exact Kept.thread (kept.pass rfl) there rfl id
  | hangUp there running raised => exact Kept.thread (kept.pass rfl) there rfl id
  | act there alive sample late =>
    exact Kept.thread (kept.pass rfl) there rfl fun ended => absurd ended alive
  | stir there shared requests => exact Kept.thread (kept.pass rfl) there rfl id
  | stop dropped there present joined =>
    exact Kept.stop (kept.pass rfl) there dropped fun running => (joined running).2
  | insert events handler =>
    refine Kept.others (kept.pass rfl) (kept.sound.insert _ _) (Nat.le_succ _) ?_ ?_
    · exact fun s entry _ => Subscriptions.mem_insert.mpr (.inl entry)
    · rintro s entry
      rcases Subscriptions.mem_insert.mp entry with old | rfl
      · exact .inl old
      · exact .inr (Nat.le_refl _)
  | remove foreign =>
    refine Kept.others (kept.pass rfl) (kept.sound.remove _) (Nat.le_refl _) ?_ ?_
    · refine fun s entry within => Subscriptions.mem_remove.mpr ⟨entry, ?_⟩
      rintro rfl
      exact foreign within
    · exact fun s entry => .inl (Subscriptions.mem_remove.mp entry).1

theorem kept_run {t : Subscriptions η} (sound : t.Sound) (run : Run { table := t } history w) :
    Kept history w := by
  induction run with
  | nil =>
    refine ⟨sound, ?_, .nil, ?_, ?_, ?_⟩
    · exact fun id among => absurd among List.not_mem_nil
    · exact fun id within => absurd within List.not_mem_nil
    · exact fun s _ among => absurd among List.not_mem_nil
    · exact fun m within => absurd within List.not_mem_nil
  | snoc _ step ih => exact ih.step step

/-- The controllers that run hold their subscriptions, and the others none. -/
theorem running_held {members : List Member} (sane : ∀ m ∈ members, m.Sane) :
    (members.filter (·.controller.isRunning)).map (·.controller.subscription) =
      (members.filterMap (·.controller.subscription)).map some := by
  induction members with
  | nil => rfl
  | cons m rest ih =>
    have ih := ih fun m' within => sane m' (List.mem_cons_of_mem _ within)
    have running := (sane m List.mem_cons_self).running
    rw [List.filter_cons, List.filterMap_cons, running]
    cases holds : m.controller.subscription with
    | none => simpa using ih
    | some id => simpa [holds] using ih

theorem Kept.one_to_one (kept : Kept history w) :
    ((w.members.filter (·.controller.isRunning)).map (·.controller.subscription)).Perm
      ((w.table.entries.filter (·.id ∈ ids history)).map fun s => some s.id) := by
  -- Neither side names an id twice, so it is enough that they name the same ones.
  have same : w.held.Perm ((w.table.entries.filter (·.id ∈ ids history)).map (·.id)) := by
    rw [List.perm_ext_iff_of_nodup kept.distinct
      (kept.sound.distinct.sublist (List.filter_sublist.map _))]
    intro id
    rw [List.mem_map]
    constructor
    · intro within
      obtain ⟨s, entry, rfl, started⟩ := kept.entered id within
      have among := mem_ids.mpr ⟨s, started, rfl⟩
      exact ⟨s, List.mem_filter.mpr ⟨entry, decide_eq_true among⟩, rfl⟩
    · rintro ⟨s, within, rfl⟩
      obtain ⟨entry, among⟩ := List.mem_filter.mp within
      exact kept.owned s entry (of_decide_eq_true among)
  rw [running_held kept.members]
  have mapped := same.map some
  rwa [List.map_map] at mapped

/-! ### No tick after a stop -/

/-- A thread that has ended does nothing more, whatever else happens. -/
theorem ended_step {move : Move η} (there : w.members[n]? = some m)
    (ended : m.thread.stance = .ended) (step : Step w move w') :
    move ≠ .acted n ∧ ∃ m', w'.members[n]? = some m' ∧ m'.thread.stance = .ended := by
  have bound := (List.getElem?_eq_some_iff.mp there).1
  -- Whoever's thread the move is about, this one's stays where it is.
  have set {k : Nat} {q q' : Member} (other : w.members[k]? = some q)
      (kept : q.thread.stance = .ended → q'.thread.stance = .ended) :
      ∃ m', (w.members.set k q')[n]? = some m' ∧ m'.thread.stance = .ended := by
    by_cases same : k = n
    · subst same
      obtain rfl := Option.some.inj (other.symm.trans there)
      exact ⟨q', List.getElem?_set_self bound, kept ended⟩
    · exact ⟨m, by rwa [List.getElem?_set_ne same], ended⟩
  cases step with
  | start => exact ⟨nofun, m, by rwa [List.getElem?_append_left bound], ended⟩
  | refuse | insert | remove => exact ⟨nofun, m, there, ended⟩
  | raise other | hangUp other | stir other | stop dropped other => exact ⟨nofun, set other id⟩
  | @act k q other alive sample late =>
    refine ⟨?_, set other fun ended => absurd ended alive⟩
    rintro ⟨⟩
    obtain rfl := Option.some.inj (other.symm.trans there)
    exact alive ended

theorem ended_of_stopped {t : Subscriptions η} {dropped : Bool} (sound : t.Sound)
    (run : Run { table := t } history w) (stopped : .stopped n dropped ∈ history) :
    ∃ m, w.members[n]? = some m ∧ m.thread.stance = .ended := by
  induction run with
  | nil => exact absurd stopped List.not_mem_nil
  | @snoc history w w' move run step ih =>
    rcases List.mem_append.mp stopped with before | now
    · obtain ⟨m, there, ended⟩ := ih before
      exact (ended_step there ended step).2
    · obtain rfl := List.mem_singleton.mp now
      cases step with
      | @stop _ m _ there present joined =>
        have sane := (kept_run sound run).members m (List.mem_of_getElem? there)
        have ended : m.thread.stance = .ended := by
          cases running : m.controller.isRunning with
          | true => exact (joined running).2
          | false => exact sane.ended running
        exact ⟨_, List.getElem?_set_self (List.getElem?_eq_some_iff.mp there).1, ended⟩

theorem silent_after {t : Subscriptions η} {dropped : Bool} {early later : List (Move η)}
    (sound : t.Sound) (run : Run { table := t } history w)
    (split : history = early ++ .stopped n dropped :: later) : .acted n ∉ later := by
  induction run generalizing later with
  | nil => simp at split
  | @snoc history w w' move run step ih =>
    obtain ⟨rfl, -, -⟩ | ⟨rest, rfl, front⟩ := Traffic.cut_concat split
    · exact List.not_mem_nil
    · have stopped : .stopped n dropped ∈ history := by
        rw [front]
        exact List.mem_append_right _ List.mem_cons_self
      obtain ⟨m, there, ended⟩ := ended_of_stopped sound run stopped
      rw [List.mem_append, List.mem_singleton]
      rintro (earlier | now)
      · exact ih front earlier
      · exact (ended_step there ended step).1 now.symm

/-! ### What every move does -/

/-- What a move changes, told from what has been before. -/
def Tells (history : List (Move η)) (w w' : Controllers η) : Move η → Prop
  | .started s =>
    w'.table.entries = w.table.entries ++ [s] ∧ (∀ s' ∈ w.table.entries, s'.id ≠ s.id) ∧
      ∃ m, w'.members = w.members ++ [m] ∧ m.controller.isRunning = true ∧
        m.controller.subscription = some s.id
  | .refused fault =>
    fault = .spawnSampler ∧ w'.table.entries = w.table.entries ∧ w'.members = w.members
  | .stopped n dropped =>
    ∃ m m', w.members[n]? = some m ∧ w'.members = w.members.set n m' ∧
      m'.controller.isRunning = false ∧ m'.thread = m.thread ∧ m.thread.stance = .ended ∧
      if m.controller.isRunning then
        ∃ front s back, .started s ∈ history ∧ m.controller.subscription = some s.id ∧
          w.table.entries = front ++ s :: back ∧ w'.table.entries = front ++ back
      else w' = w.put n { m with gone := dropped }
  | .raised _ | .hungUp _ | .acted _ | .stirred _ => w'.table = w.table ∧ w'.held = w.held
  | .inserted _ | .removed _ => w'.members = w.members

theorem Kept.tells {move : Move η} (kept : Kept history w) (step : Step w move w') :
    Tells history w w' move := by
  cases step with
  | start requests begun sampling subscribed =>
    rw [Controller.start_spawned] at begun
    cases begun
    cases subscribed
    exact ⟨rfl, fun s entry => Nat.ne_of_lt (kept.sound.given s entry), _, rfl, rfl, rfl⟩
  | @refuse settings now handler fault table failed =>
    rw [Controller.start_refused] at failed
    cases failed
    exact ⟨rfl, kept.sound.entries_remove_insert Request.watchedEvents handler, rfl⟩
  | raise there running | hangUp there running raised | act there alive | stir there =>
    exact ⟨rfl, held_thread there rfl⟩
  | @stop n m dropped there present joined =>
    have within := List.mem_of_getElem? there
    have sane := kept.members m within
    cases holds : m.controller.subscription with
    | none =>
      have idle : m.controller.isRunning = false := by rw [sane.running, holds, Option.isSome_none]
      rw [sane.stop_again holds]
      refine ⟨m, _, there, rfl, idle, rfl, sane.ended idle, ?_⟩
      rw [if_neg (by simp [idle])]
      rfl
    | some id =>
      have running : m.controller.isRunning = true := by
        rw [sane.running, holds, Option.isSome_some]
      obtain ⟨s, entry, rfl, started⟩ :=
        kept.entered id (List.mem_filterMap.mpr ⟨m, within, holds⟩)
      obtain ⟨front, back, split⟩ := List.append_of_mem entry
      rw [Controller.stop_some holds]
      refine ⟨m, _, there, rfl, rfl, rfl, (joined running).2, ?_⟩
      rw [if_pos running]
      exact ⟨front, s, back, started, holds, split, kept.sound.entries_remove split⟩
  | insert | remove => rfl

/-- What holds of every table with controllers, whatever subscriptions of others were in it first:
each move changes what it should and nothing else; the controllers that run have one entry each,
and no entry of a controller is left over; after a stop the thread does nothing; and a stop does
not wait for more than a few actions of the thread. -/
theorem lifecycle {t : Subscriptions η} (sound : t.Sound) (run : Run { table := t } history w) :
    (∀ move w', Step w move w' → Tells history w w' move) ∧
    ((w.members.filter (·.controller.isRunning)).map (·.controller.subscription)).Perm
      ((w.table.entries.filter (·.id ∈ ids history)).map fun s => some s.id) ∧
    (w.table.entries.map (·.id)).Nodup ∧
    (∀ early n dropped later, history = early ++ .stopped n dropped :: later →
      .acted n ∉ later) ∧
    ∀ m ∈ w.members, m.thread.Halted → ∀ turns : List (Sample × Bool), 9 ≤ turns.length →
      (m.thread.acts turns).stance = .ended := by
  have kept := kept_run sound run
  refine ⟨fun move w' => kept.tells, kept.one_to_one, kept.sound.distinct,
    fun early n dropped later => silent_after sound run, fun m _ halted turns enough => ?_⟩
  exact halted.ends (Nat.le_trans m.thread.stance.left_le enough)

/-- A controller beside a log of all events: one start succeeds and one fails, and the stop waits
for the thread to notice. -/
theorem lifecycle_logged :
    ∃ w : Controllers Audience,
      Run { table := ⟨1, [⟨0, ["*"], Audience.other "log"⟩]⟩ }
        [.started (Controller.listener 1 .controller), .refused .spawnSampler, .raised 0, .hungUp 0,
          .acted 0, .stopped 0 false] w ∧
      w.table = ⟨3, [⟨0, ["*"], Audience.other "log"⟩]⟩ ∧
      ((w.members.filter (·.controller.isRunning)).map (·.controller.subscription)).Perm [] := by
  have sound : (⟨1, [⟨0, ["*"], Audience.other "log"⟩]⟩ : Subscriptions Audience).Sound :=
    Subscriptions.sound_empty.insert ["*"] (Audience.other "log")
  let w : Controllers Audience := { table := ⟨1, [⟨0, ["*"], Audience.other "log"⟩]⟩ }
  have started := (@Run.nil _ w).snoc
    (.start w {} (Controller.start_spawned {} 0 Audience.controller w.table) rfl rfl)
  have refused := started.snoc (.refuse _ (Controller.start_refused {} 0 Audience.controller _))
  have raised := refused.snoc (.raise (n := 0) rfl rfl)
  have halted := raised.snoc (.hangUp (n := 0) rfl rfl rfl)
  have ended := halted.snoc (.act (n := 0) rfl (by decide +kernel) ⟨0, none⟩ false)
  have run := ended.snoc (.stop (n := 0) false rfl rfl fun _ => ⟨⟨rfl, rfl⟩, rfl⟩)
  exact ⟨_, run, rfl, (lifecycle sound run).2.1⟩

end Controllers

end EdgeReveal
