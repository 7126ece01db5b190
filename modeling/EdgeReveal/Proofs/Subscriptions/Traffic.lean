import EdgeReveal.Proofs.Subscriptions.Table
import Mathlib.Data.List.Induction

/-!
# Traffic at a table of subscriptions

Operations on the table come one after the other, but a publishing takes a while: it chooses its
handlers at its beginning and then calls one after the other, and a handler that is being called may
do to the table what it likes, publish included. So anything may happen between two calls of a
publishing. A history lists what has happened with what was reported, and what is claimed of the
table is read off the history alone.
-/
namespace EdgeReveal

/-- A publishing that has begun: the handlers that it has chosen, in whatever order the table gave
them out, and how many of them it has called. -/
structure Publishing (η : Type) where
  event : Event
  handlers : List (Subscription η)
  called : Nat := 0
  returned : Bool := false
  deriving DecidableEq, Repr

/-- A table, and the publishings in the order in which they began. -/
structure Traffic (η : Type) where
  table : Subscriptions η := {}
  publishings : List (Publishing η) := []
  deriving DecidableEq, Repr

/-- Something that happens, with what it reports. Publishings go by their number. -/
inductive Happening (η : Type) where
  | inserted (s : Subscription η)
  | removed (id : Nat) (was : Bool)
  | asked (empty : Bool)
  | published (line : String)
  | called (number : Nat) (s : Subscription η) (event : Event)
  | returned (number count : Nat)
  deriving DecidableEq, Repr

namespace Traffic

variable {η : Type}

inductive Step : Traffic η → Happening η → Traffic η → Prop
  | insert (b : Traffic η) (events : List String) (handler : η) :
      Step b (.inserted ⟨(b.table.insert events handler).1, events, handler⟩)
        { b with table := (b.table.insert events handler).2 }
  | remove (b : Traffic η) (id : Nat) :
      Step b (.removed id (b.table.remove id).1) { b with table := (b.table.remove id).2 }
  | ask (b : Traffic η) : Step b (.asked b.table.isEmpty) b
  | publish (b : Traffic η) (line : String) {handlers : List (Subscription η)}
      (chosen : handlers.Perm (b.table.recipients (.ofLine line))) :
      Step b (.published line)
        { b with
          publishings := b.publishings ++ [{ event := .ofLine line, handlers := handlers }] }
  | call {b : Traffic η} {number : Nat} {p : Publishing η} {s : Subscription η}
      (begun : b.publishings[number]? = some p) (next : p.handlers[p.called]? = some s) :
      Step b (.called number s p.event)
        { b with publishings := b.publishings.set number { p with called := p.called + 1 } }
  | finish {b : Traffic η} {number : Nat} {p : Publishing η}
      (begun : b.publishings[number]? = some p) (done : p.called = p.handlers.length)
      (going : p.returned = false) :
      Step b (.returned number p.handlers.length)
        { b with publishings := b.publishings.set number { p with returned := true } }

inductive Run (start : Traffic η) : List (Happening η) → Traffic η → Prop
  | nil : Run start [] start
  | snoc {history : List (Happening η)} {b b' : Traffic η} {h : Happening η}
      (run : Run start history b) (step : Step b h b') : Run start (history ++ [h]) b'

theorem Run.append {start b b' : Traffic η} {history later : List (Happening η)}
    (run : Run start history b) (more : Run b later b') : Run start (history ++ later) b' := by
  induction more with
  | nil => rwa [List.append_nil]
  | snoc _ step ih =>
    rw [← List.append_assoc]
    exact ih.snoc step

/-! ### What a history tells -/

section History

variable {history before after : List (Happening η)} {s : Subscription η}

def given (history : List (Happening η)) : List Nat :=
  history.filterMap fun
    | .inserted s => some s.id
    | _ => none

/-- Inserted, and not removed since. -/
def Live (history : List (Happening η)) (s : Subscription η) : Prop :=
  ∃ before after, history = before ++ .inserted s :: after ∧ ∀ was, .removed s.id was ∉ after

/-- How many publishings have begun. -/
def begun (history : List (Happening η)) : Nat :=
  history.countP fun
    | .published _ => true
    | _ => false

/-- Whom a publishing has called, and with what. -/
def callsOf (number : Nat) (history : List (Happening η)) : List (Subscription η × Event) :=
  history.filterMap fun
    | .called n s event => if n = number then some (s, event) else none
    | _ => none

/-- Where a history with one thing more is cut, the cut is at this thing or before it. -/
theorem cut_concat {α : Type} {history before after : List α} {h x : α}
    (same : history ++ [h] = before ++ x :: after) :
    (after = [] ∧ x = h ∧ before = history) ∨
      ∃ rest, after = rest ++ [h] ∧ history = before ++ x :: rest := by
  cases after using List.reverseRecOn with
  | nil =>
    obtain ⟨rfl, last⟩ := List.append_inj' same rfl
    exact .inl ⟨rfl, (List.singleton_inj.mp last).symm, rfl⟩
  | append_singleton rest last =>
    rw [← List.cons_append, ← List.append_assoc] at same
    obtain ⟨front, last'⟩ := List.append_inj' same rfl
    exact .inr ⟨rest, by rw [List.singleton_inj.mp last'], front⟩

theorem live_snoc {h : Happening η} :
    Live (history ++ [h]) s ↔
      (Live history s ∧ ∀ was, h ≠ .removed s.id was) ∨ h = .inserted s := by
  constructor
  · rintro ⟨before, after, same, kept⟩
    obtain ⟨-, last, -⟩ | ⟨rest, rfl, front⟩ := cut_concat same
    · exact .inr last.symm
    · refine .inl ⟨⟨before, rest, front, fun was within => kept was ?_⟩, fun was => ?_⟩
      · exact List.mem_append_left _ within
      · rintro rfl
        exact kept was (by simp)
  · rintro (⟨⟨before, after, rfl, kept⟩, other⟩ | rfl)
    · refine ⟨before, after ++ [h], by simp, fun was within => ?_⟩
      rcases List.mem_append.mp within with within | within
      · exact kept was within
      · exact other was (List.mem_singleton.mp within).symm
    · exact ⟨history, [], rfl, by simp⟩

theorem given_append : given (before ++ after) = given before ++ given after :=
  List.filterMap_append

theorem begun_append : begun (before ++ after) = begun before + begun after := List.countP_append

theorem callsOf_append (number : Nat) :
    callsOf number (before ++ after) = callsOf number before ++ callsOf number after :=
  List.filterMap_append

end History

section Records

variable {history : List (Happening η)} {b b' : Traffic η} {h : Happening η}

theorem not_live_nil (s : Subscription η) : ¬Live [] s := by
  rintro ⟨before, after, same, -⟩
  simp at same

theorem sound_step (step : Step b h b') (sound : b.table.Sound) : b'.table.Sound := by
  cases step with
  | insert events handler => exact sound.insert events handler
  | remove id => exact sound.remove id
  | ask | publish | call | finish => exact sound

theorem sound_run {start : Traffic η} (run : Run start history b) (sound : start.table.Sound) :
    b.table.Sound := by
  induction run with
  | nil => exact sound
  | snoc _ step ih => exact sound_step step ih

/-- The table holds what was inserted and not removed since. -/
theorem mem_entries_run (run : Run {} history b) (s : Subscription η) :
    s ∈ b.table.entries ↔ Live history s := by
  induction run with
  | nil => exact iff_of_false List.not_mem_nil (not_live_nil s)
  | snoc run step ih =>
    rw [live_snoc, ← ih]
    cases step with
    | insert events handler =>
      rw [Subscriptions.mem_insert]
      simp [Subscriptions.insert, eq_comm]
    | remove id =>
      rw [Subscriptions.mem_remove]
      simp [eq_comm]
    | ask | publish | call | finish => simp

/-- Ids are given out in order, so one that has been given out is below the next one. -/
theorem lt_of_given {start : Traffic η} (run : Run start history b) {id : Nat}
    (old : id ∈ given history) : id < b.table.nextId := by
  induction run with
  | nil => simp [given] at old
  | @snoc history b b' h run step ih =>
    rw [given_append, List.mem_append] at old
    rcases old with old | new
    · refine Nat.lt_of_lt_of_le (ih old) ?_
      cases step with
      | insert => exact Nat.le_succ _
      | remove | ask | publish | call | finish => exact Nat.le_refl _
    · cases step with
      | insert events handler =>
        simp only [given, List.filterMap_cons, List.filterMap_nil, List.mem_singleton] at new
        rw [new]
        exact Nat.lt_succ_self _
      | remove | ask | publish | call | finish => simp [given] at new

/-! ### What becomes of a publishing -/

theorem length_publishings {start : Traffic η} (run : Run start history b) :
    b.publishings.length = start.publishings.length + begun history := by
  induction run with
  | nil => rfl
  | snoc _ step ih =>
    rw [begun_append, ← Nat.add_assoc, ← ih]
    cases step with
    | insert | remove | ask | publish | call | finish => simp [begun]

/-- What a step means to a publishing that has begun: nothing, a call, or its return. -/
theorem step_publishing {number : Nat} {p : Publishing η}
    (there : b.publishings[number]? = some p) (step : Step b h b') :
    (b'.publishings[number]? = some p ∧ callsOf number [h] = [] ∧
      ∀ count, h ≠ .returned number count) ∨
    (∃ s, p.handlers[p.called]? = some s ∧ h = .called number s p.event ∧
      b'.publishings[number]? = some { p with called := p.called + 1 }) ∨
    (p.called = p.handlers.length ∧ p.returned = false ∧
      h = .returned number p.handlers.length ∧
      b'.publishings[number]? = some { p with returned := true }) := by
  have bound := (List.getElem?_eq_some_iff.mp there).1
  -- A call or a return is of this publishing or of another one.
  cases step with
  | insert | remove | ask => exact .inl ⟨there, rfl, by simp⟩
  | publish => exact .inl ⟨by rwa [List.getElem?_append_left bound], rfl, by simp⟩
  | @call k q s begun next =>
    by_cases same : k = number
    · subst same
      obtain rfl := Option.some.inj (begun.symm.trans there)
      exact .inr (.inl ⟨s, next, rfl, List.getElem?_set_self bound⟩)
    · refine .inl ⟨by rwa [List.getElem?_set_ne same], by simp [callsOf, same], by simp⟩
  | @finish k q begun done going =>
    by_cases same : k = number
    · subst same
      obtain rfl := Option.some.inj (begun.symm.trans there)
      exact .inr (.inr ⟨done, going, rfl, List.getElem?_set_self bound⟩)
    · refine .inl ⟨by rwa [List.getElem?_set_ne same], rfl, ?_⟩
      simp [same]

/-- Every publishing has called no more handlers than it has, and returned only after the last. -/
def Steady (b : Traffic η) : Prop :=
  ∀ p ∈ b.publishings, p.called ≤ p.handlers.length ∧
    (p.returned = true → p.called = p.handlers.length)

theorem Steady.step (steady : b.Steady) (step : Step b h b') : b'.Steady := by
  intro p within
  cases step with
  | insert | remove | ask => exact steady p within
  | publish =>
    rcases List.mem_append.mp within with old | new
    · exact steady p old
    · obtain rfl := List.mem_singleton.mp new
      exact ⟨Nat.zero_le _, fun returned => by cases returned⟩
  | @call number q s there next =>
    rcases List.mem_or_eq_of_mem_set within with old | rfl
    · exact steady p old
    · have bound := (List.getElem?_eq_some_iff.mp next).1
      refine ⟨bound, fun returned => ?_⟩
      exact absurd ((steady q (List.mem_of_getElem? there)).2 returned) (Nat.ne_of_lt bound)
  | finish there done =>
    rcases List.mem_or_eq_of_mem_set within with old | rfl
    · exact steady p old
    · exact ⟨Nat.le_of_eq done, fun _ => done⟩

theorem Steady.run {start : Traffic η} (steady : start.Steady) (run : Run start history b) :
    b.Steady := by
  induction run with
  | nil => exact steady
  | snoc _ step ih => exact ih.step step

theorem steady_run (run : Run {} history b) : b.Steady := Steady.run (by simp [Steady]) run

/-- Nothing is heard of a publishing before it begins. -/
theorem unheard {start : Traffic η} {number : Nat} (run : Run start history b)
    (later : b.publishings.length ≤ number) :
    callsOf number history = [] ∧ ∀ count, .returned number count ∉ history := by
  induction run with
  | nil => exact ⟨rfl, fun count => List.not_mem_nil⟩
  | @snoc history b b' h run step ih =>
    have grown : b.publishings.length ≤ b'.publishings.length := by
      cases step with
      | insert | remove | ask | publish | call | finish => simp
    obtain ⟨calls, returns⟩ := ih (Nat.le_trans grown later)
    rw [callsOf_append, calls, List.nil_append]
    have other {k : Nat} {p : Publishing η} (begun : b.publishings[k]? = some p) : k ≠ number := by
      have bound := (List.getElem?_eq_some_iff.mp begun).1
      omega
    cases step with
    | insert | remove | ask | publish => simpa [callsOf] using returns
    | call begun => simpa [callsOf, other begun] using returns
    | finish begun => simpa [callsOf, (other begun).symm] using returns

/-- A publishing, told from the history: it began with `line` behind `early`, chose whom it found
in the table then, and has called as many of them as it says, in their order. -/
structure Told (number : Nat) (line : String) (early history : List (Happening η))
    (p : Publishing η) : Prop where
  position : begun early = number
  begins : ∃ late, history = early ++ .published line :: late
  event : p.event = .ofLine line
  distinct : (p.handlers.map (·.id)).Nodup
  chosen : ∀ s, s ∈ p.handlers ↔ Live early s ∧ (p.event.name ∈ s.events ∨ "*" ∈ s.events)
  calls : callsOf number history = (p.handlers.take p.called).map ((·, p.event))
  returned : p.returned = true ↔ ∃ count, .returned number count ∈ history

theorem Told.step {number : Nat} {line : String} {early : List (Happening η)} {p p' : Publishing η}
    (told : Told number line early history p) (there : b.publishings[number]? = some p)
    (there' : b'.publishings[number]? = some p') (step : Step b h b') :
    Told number line early (history ++ [h]) p' := by
  obtain ⟨late, begins⟩ := told.begins
  have begins' : ∃ late, history ++ [h] = early ++ .published line :: late :=
    ⟨late ++ [h], by rw [begins, List.append_assoc, List.cons_append]⟩
  obtain ⟨same, silent, going⟩ | ⟨s, next, rfl, moved⟩ | ⟨-, -, rfl, ended⟩ :=
    step_publishing there step
  · obtain rfl := Option.some.inj (there'.symm.trans same)
    refine ⟨told.position, begins', told.event, told.distinct, told.chosen, ?_, ?_⟩
    · rw [callsOf_append, told.calls, silent, List.append_nil]
    · rw [told.returned]
      refine exists_congr fun count => ?_
      rw [List.mem_append, List.mem_singleton, or_iff_left (going count).symm]
  · obtain rfl := Option.some.inj (there'.symm.trans moved)
    refine ⟨told.position, begins', told.event, told.distinct, told.chosen, ?_, ?_⟩
    · rw [callsOf_append, told.calls, List.take_add_one, next]
      simp [callsOf]
    · simpa using told.returned
  · obtain rfl := Option.some.inj (there'.symm.trans ended)
    refine ⟨told.position, begins', told.event, told.distinct, told.chosen, ?_, by simp⟩
    rw [callsOf_append, told.calls]
    simp [callsOf]

/-- Every publishing can be told from the history. -/
theorem told_run {number : Nat} {p : Publishing η} (run : Run {} history b)
    (there : b.publishings[number]? = some p) :
    ∃ line early, Told number line early history p := by
  induction run generalizing p with
  | nil => simp at there
  | @snoc history b b' h run step ih =>
    cases before : b.publishings[number]? with
    | some p₀ =>
      obtain ⟨line, early, told⟩ := ih before
      exact ⟨line, early, told.step before there step⟩
    | none =>
      -- It was not there before, so it is the one that begins with this step.
      have later := List.getElem?_eq_none_iff.mp before
      have bound := (List.getElem?_eq_some_iff.mp there).1
      cases step with
      | insert | remove | ask => simp [before] at there
      | call | finish =>
        rw [List.length_set] at bound
        exact absurd bound (Nat.not_lt.mpr later)
      | @publish line handlers chosen =>
        rw [List.length_append, List.length_singleton] at bound
        have last : number = b.publishings.length := by omega
        rw [last, List.getElem?_concat_length, Option.some.injEq] at there
        obtain ⟨silent, going⟩ := unheard run later
        have sound := sound_run run Subscriptions.sound_empty
        refine ⟨line, history, ?_⟩
        rw [← there]
        refine ⟨?_, ⟨[], rfl⟩, rfl, ?_, ?_, ?_, ?_⟩
        · rw [last, length_publishings run, List.length_nil, Nat.zero_add]
        · exact (chosen.map _).nodup_iff.mpr (sound.nodup_recipients _)
        · intro s
          rw [chosen.mem_iff, Subscriptions.mem_recipients, mem_entries_run run]
        · rw [callsOf_append, silent]
          rfl
        · simp only [List.mem_append, List.mem_singleton, reduceCtorEq, or_false, false_iff,
            not_exists]
          exact going

end Records

/-! ### What every happening reports -/

section Accounts

variable {before : List (Happening η)} {b b' : Traffic η} {h : Happening η}

/-- A publishing that has begun and not returned, with its line and what had happened before. -/
def Open (number : Nat) (line : String) (early before : List (Happening η)) : Prop :=
  begun early = number ∧ (∃ late, before = early ++ .published line :: late) ∧
    ∀ count, .returned number count ∉ before

/-- What is reported, told from what has happened before; and who is in the table afterwards. -/
def Accounts (before : List (Happening η)) (b b' : Traffic η) : Happening η → Prop
  | .inserted s =>
    s.id ∉ given before ∧ ∀ s', s' ∈ b'.table.entries ↔ s' ∈ b.table.entries ∨ s' = s
  | .removed id was =>
    (was = true ↔ ∃ s, Live before s ∧ s.id = id) ∧
      ∀ s, s ∈ b'.table.entries ↔ s ∈ b.table.entries ∧ s.id ≠ id
  | .asked empty => (empty = true ↔ ∀ s, ¬Live before s) ∧ b'.table = b.table
  | .published _ => b'.table = b.table
  | .called number s event =>
    (∃ line early, Open number line early before ∧ event = .ofLine line ∧ Live early s ∧
      (event.name ∈ s.events ∨ "*" ∈ s.events) ∧
      ∀ call ∈ callsOf number before, call.1.id ≠ s.id) ∧ b'.table = b.table
  | .returned number count =>
    (∃ line early, Open number line early before ∧
      ((callsOf number before).map (·.1.id)).Nodup ∧
      (∀ s event, (s, event) ∈ callsOf number before ↔
        event = .ofLine line ∧ Live early s ∧ (event.name ∈ s.events ∨ "*" ∈ s.events)) ∧
      count = (callsOf number before).length) ∧ b'.table = b.table

theorem Told.open {number : Nat} {line : String} {early : List (Happening η)} {p : Publishing η}
    (told : Told number line early before p) (going : p.returned = false) :
    Open number line early before := by
  refine ⟨told.position, told.begins, fun count within => ?_⟩
  have returned := told.returned.mpr ⟨count, within⟩
  rw [going] at returned
  cases returned

theorem accounts (run : Run {} before b) (step : Step b h b') : Accounts before b b' h := by
  have steady := steady_run run
  cases step with
  | insert events handler =>
    refine ⟨fun old => ?_, fun s => Subscriptions.mem_insert⟩
    exact Nat.lt_irrefl _ (lt_of_given run old)
  | remove id =>
    refine ⟨?_, fun s => Subscriptions.mem_remove⟩
    simp only [Subscriptions.removed_iff, mem_entries_run run]
  | ask =>
    refine ⟨?_, rfl⟩
    simp only [Subscriptions.isEmpty, List.isEmpty_iff, List.eq_nil_iff_forall_not_mem,
      mem_entries_run run]
  | publish => rfl
  | @call number p s there next =>
    obtain ⟨line, early, told⟩ := told_run run there
    obtain ⟨bound, at_place⟩ := List.getElem?_eq_some_iff.mp next
    obtain ⟨live, wants⟩ := (told.chosen s).mp (List.mem_of_getElem? next)
    refine ⟨⟨line, early, told.open ?going, told.event, live, wants, ?once⟩, rfl⟩
    case going =>
      rw [← Bool.not_eq_true]
      exact fun returned => Nat.ne_of_lt bound ((steady p (List.mem_of_getElem? there)).2 returned)
    case once =>
      -- Behind the ones that have been called, no id of theirs stands again.
      have distinct := told.distinct
      rw [← List.take_append_drop p.called p.handlers, List.map_append,
        List.nodup_append'] at distinct
      have ahead : s.id ∈ (p.handlers.drop p.called).map (·.id) := by
        rw [List.drop_eq_getElem_cons bound, at_place]
        exact List.mem_cons_self
      simp only [told.calls, List.mem_map]
      rintro _ ⟨s', earlier, rfl⟩ same
      exact distinct.2.2 (List.mem_map.mpr ⟨s', earlier, same⟩) ahead
  | @finish number p there done going =>
    obtain ⟨line, early, told⟩ := told_run run there
    have calls : callsOf number before = p.handlers.map ((·, p.event)) := by
      rw [told.calls, done, List.take_length]
    refine ⟨⟨line, early, told.open going, ?once, fun s event => ?all, ?count⟩, rfl⟩
    case once =>
      rw [calls, List.map_map]
      exact told.distinct
    case all =>
      rw [calls, ← told.event]
      constructor
      · intro within
        obtain ⟨s', chosen, same⟩ := List.mem_map.mp within
        cases same
        exact ⟨rfl, (told.chosen s).mp chosen⟩
      · rintro ⟨rfl, wanted⟩
        exact List.mem_map.mpr ⟨s, (told.chosen s).mpr wanted, rfl⟩
    case count => rw [calls, List.length_map]

/-- A publishing that has not returned can go on, whatever has happened since it began. -/
theorem goes_on {number : Nat} {line : String} {early : List (Happening η)} (run : Run {} before b)
    (going : Open number line early before) :
    ∃ h b', Step b h b' ∧
      ((∃ s event, h = .called number s event) ∨ ∃ count, h = .returned number count) := by
  obtain ⟨position, ⟨late, begins⟩, silent⟩ := going
  have bound : number < b.publishings.length := by
    have counted : begun before = begun early + begun (.published line :: late) := by
      rw [begins, begun_append]
    have itself : 0 < begun (.published line :: late) :=
      List.countP_pos_iff.mpr ⟨_, List.mem_cons_self, rfl⟩
    have length := length_publishings run
    simp only [List.length_nil] at length
    omega
  obtain ⟨p, there⟩ : ∃ p, b.publishings[number]? = some p := ⟨_, List.getElem?_eq_getElem bound⟩
  have steady := steady_run run
  obtain ⟨_, _, told⟩ := told_run run there
  rcases Nat.lt_or_eq_of_le (steady p (List.mem_of_getElem? there)).1 with more | done
  · exact ⟨_, _, .call there (List.getElem?_eq_getElem more), .inl ⟨_, _, rfl⟩⟩
  · have open' : p.returned = false := by
      rw [← Bool.not_eq_true, told.returned]
      rintro ⟨count, within⟩
      exact silent count within
    exact ⟨_, _, .finish there done open', .inr ⟨_, rfl⟩⟩

end Accounts

end Traffic

end EdgeReveal
