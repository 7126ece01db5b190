import EdgeReveal.Proofs.Subscriptions.Traffic

/-!
# What a subscriber hears

From its insertion on, as long as it is not removed, a subscriber hears every line that it wants and
hears it once. Publishings that overlap may reach it in any order; lines that are published one
after the other reach it in theirs.
-/
namespace EdgeReveal

namespace Traffic

variable {η : Type} {history before later : List (Happening η)} {b b' : Traffic η}
  {h : Happening η} {s : Subscription η}

/-- The lines that are published, in the order in which their publishings begin. -/
def lines (history : List (Happening η)) : List String :=
  history.filterMap fun
    | .published line => some line
    | _ => none

/-- The events that the subscription with this id is called with. -/
def heardBy (id : Nat) (history : List (Happening η)) : List Event :=
  history.filterMap fun
    | .called _ s event => if s.id = id then some event else none
    | _ => none

/-- The events of the lines published that a subscription has in its list. -/
def wanted (s : Subscription η) (history : List (Happening η)) : List Event :=
  ((lines history).map .ofLine).filter fun event => s.wants event.name

/-- What a publishing has still to tell the subscription with this id. -/
def owedBy (id : Nat) (p : Publishing η) : List Event :=
  ((p.handlers.drop p.called).filter (·.id = id)).map fun _ => p.event

def owed (id : Nat) (b : Traffic η) : List Event := b.publishings.flatMap (owedBy id)

/-- All publishings that have begun have returned. -/
def Quiet (history : List (Happening η)) : Prop :=
  ∀ number < begun history, ∃ count, .returned number count ∈ history

def OneByOne (history : List (Happening η)) : Prop :=
  ∀ early line late, history = early ++ .published line :: late → Quiet early

theorem heardBy_append (id : Nat) (before after : List (Happening η)) :
    heardBy id (before ++ after) = heardBy id before ++ heardBy id after := List.filterMap_append

theorem heardBy_called (id number : Nat) (s : Subscription η) (event : Event)
    (rest : List (Happening η)) :
    heardBy id (.called number s event :: rest) =
      if s.id = id then event :: heardBy id rest else heardBy id rest := by
  rw [heardBy, List.filterMap_cons]
  by_cases own : s.id = id <;> simp only [own, ite_true, ite_false, heardBy]

theorem lines_append (before after : List (Happening η)) :
    lines (before ++ after) = lines before ++ lines after := List.filterMap_append

theorem wanted_append (s : Subscription η) (before after : List (Happening η)) :
    wanted s (before ++ after) = wanted s before ++ wanted s after := by
  simp only [wanted, lines_append, List.map_append, List.filter_append]

theorem OneByOne.shorter (oneByOne : OneByOne (before ++ later)) : OneByOne before := by
  rintro early line late rfl
  exact oneByOne early line (late ++ later) (by simp)

theorem oneByOne_nil : OneByOne ([] : List (Happening η)) := by
  intro early line late same
  simp at same

theorem OneByOne.snoc (oneByOne : OneByOne history)
    (quiet : ∀ line, h = .published line → Quiet history) : OneByOne (history ++ [h]) := by
  intro early line late same
  obtain ⟨-, last, rfl⟩ | ⟨rest, rfl, front⟩ := cut_concat same
  · exact quiet line last.symm
  · exact oneByOne early line rest front

/-! ### What one step makes of it -/

/-- What one element of a list gives less comes out in front. -/
theorem perm_flatMap_set {α β : Type} {f : α → List β} {l : List α} {n : Nat} {a a' : α}
    {front : List β} (there : l[n]? = some a) (less : f a = front ++ f a') :
    (l.flatMap f).Perm (front ++ (l.set n a').flatMap f) := by
  induction l generalizing n with
  | nil => simp at there
  | cons first rest ih =>
    cases n with
    | zero =>
      cases there
      rw [List.set_cons_zero, List.flatMap_cons, List.flatMap_cons, less, List.append_assoc]
    | succ n =>
      rw [List.set_cons_succ, List.flatMap_cons, List.flatMap_cons]
      refine ((ih there).append_left _).trans ?_
      rw [← List.append_assoc, ← List.append_assoc]
      exact List.perm_append_comm.append_right _

/-- There is but one order of one element. -/
theorem eq_of_short_perm {α : Type} {l l' : List α} (same : l.Perm l') (short : l.length ≤ 1) :
    l = l' := by
  cases l with
  | nil => exact (List.nil_perm.mp same).symm
  | cons a rest =>
    obtain rfl : rest = [] := List.eq_nil_of_length_eq_zero (by simpa using short)
    exact List.singleton_perm.mp same

theorem owedBy_call {p : Publishing η} (id number : Nat)
    (next : p.handlers[p.called]? = some s) :
    owedBy id p =
      heardBy id [.called number s p.event] ++ owedBy id { p with called := p.called + 1 } := by
  obtain ⟨bound, rfl⟩ := List.getElem?_eq_some_iff.mp next
  rw [owedBy, List.drop_eq_getElem_cons bound, List.filter_cons, heardBy_called]
  by_cases own : p.handlers[p.called].id = id
  · rw [if_pos own, if_pos (decide_eq_true own)]
    rfl
  · rw [if_neg own, if_neg (by simpa using own)]
    rfl

/-- All calls of a publishing together tell a subscription what the publishing owes it. -/
theorem heardBy_calls (id number : Nat) (handlers : List (Subscription η)) (event : Event) :
    heardBy id (handlers.map (.called number · event)) =
      owedBy id { event := event, handlers := handlers } := by
  induction handlers with
  | nil => rfl
  | cons s rest ih =>
    rw [List.map_cons, heardBy_called, ih]
    by_cases own : s.id = id <;> simp [owedBy, own]

/-- The handlers chosen for a line hold a subscription once if it wants the line, else not. -/
theorem owedBy_chosen {t : Subscriptions η} {line : String} {handlers : List (Subscription η)}
    (sound : t.Sound) (within : s ∈ t.entries)
    (chosen : handlers.Perm (t.recipients (.ofLine line))) :
    owedBy s.id { event := .ofLine line, handlers := handlers } = wanted s [.published line] := by
  have own : (handlers.filter (·.id = s.id)).Perm
      ([s].filter fun s => s.wants (Event.ofLine line).name) := by
    rw [← sound.filter_id within, List.filter_filter,
      List.filter_congr fun _ _ => Bool.and_comm _ _, ← List.filter_filter]
    exact chosen.filter _
  unfold owedBy
  cases wants : s.wants (Event.ofLine line).name with
  | false =>
    rw [List.filter_cons_of_neg (by simp [wants]), List.filter_nil, List.perm_nil] at own
    simp [own, wanted, lines, wants]
  | true =>
    rw [List.filter_cons_of_pos (by simp [wants]), List.filter_nil, List.perm_singleton] at own
    simp [own, wanted, lines, wants]

/-- What is owed, and wanted of the line that is published, is heard or owed afterwards. -/
theorem owed_step (sound : b.table.Sound) (within : s ∈ b.table.entries) (step : Step b h b') :
    (owed s.id b ++ wanted s [h]).Perm (heardBy s.id [h] ++ owed s.id b') := by
  cases step with
  | insert | remove | ask =>
    rw [show wanted s _ = [] from rfl, List.append_nil]
    exact .refl _
  | publish line chosen =>
    have beginning := owedBy_chosen sound within chosen
    simp only [owed, List.flatMap_append, List.flatMap_cons, List.flatMap_nil, List.append_nil,
      beginning]
    exact .refl _
  | call begun next =>
    rw [show wanted s _ = [] from rfl, List.append_nil]
    exact perm_flatMap_set begun (owedBy_call s.id _ next)
  | finish begun =>
    rw [show wanted s _ = [] from rfl, List.append_nil]
    exact perm_flatMap_set begun rfl

/-! ### From the insertion on -/

section Inserted

variable {b₀ b₁ : Traffic η}

theorem given_of_live (live : Live history s) : s.id ∈ given history := by
  obtain ⟨early, late, rfl, -⟩ := live
  simp [given]

/-- Who was inserted just now is owed nothing: the publishings in progress have chosen before. -/
theorem owed_inserted (run : Run {} before b₀) (step : Step b₀ (.inserted s) b₁) :
    owed s.id b₁ = [] := by
  cases step with
  | insert events handler =>
  refine List.flatMap_eq_nil_iff.mpr fun p among => ?_
  obtain ⟨number, there⟩ := List.mem_iff_getElem?.mp among
  obtain ⟨line, early, told⟩ := told_run run there
  obtain ⟨late, begins⟩ := told.begins
  -- Its handlers were inserted before it began, so their ids are below the new one.
  refine List.map_eq_nil_iff.mpr (List.filter_eq_nil_iff.mpr fun s' ahead => ?_)
  have old : s'.id ∈ given before := by
    rw [begins, given_append]
    exact List.mem_append_left _
      (given_of_live ((told.chosen s').mp (List.mem_of_mem_drop ahead)).1)
  rw [decide_eq_true_iff]
  exact Nat.ne_of_lt (lt_of_given run old)

/-- It stays in the table until it is removed. -/
theorem mem_entries_kept (run : Run b₁ later b) (within : s ∈ b₁.table.entries)
    (kept : ∀ was, .removed s.id was ∉ later) : s ∈ b.table.entries := by
  induction run with
  | nil => exact within
  | snoc run step ih =>
    have within := ih fun was removed => kept was (List.mem_append_left _ removed)
    cases step with
    | insert events handler => exact Subscriptions.mem_insert.mpr (.inl within)
    | remove id =>
      refine Subscriptions.mem_remove.mpr ⟨within, ?_⟩
      rintro rfl
      exact kept _ (List.mem_append_right _ (List.mem_singleton.mpr rfl))
    | ask | publish | call | finish => exact within

theorem owed_next (run : Run {} before b₀) (step : Step b₀ (.inserted s) b₁)
    (more : Run b₁ later b) (next : Step b h b') (kept : ∀ was, .removed s.id was ∉ later) :
    (owed s.id b ++ wanted s [h]).Perm (heardBy s.id [h] ++ owed s.id b') := by
  have inserted := (mem_entries_run (run.snoc step) s).mpr (live_snoc.mpr (.inr rfl))
  have sound := sound_run ((run.snoc step).append more) Subscriptions.sound_empty
  exact owed_step sound (mem_entries_kept more inserted kept) next

/-- What it has heard and what it is still owed are the events that it wants. -/
theorem heard_perm (run : Run {} before b₀) (step : Step b₀ (.inserted s) b₁)
    (more : Run b₁ later b) (kept : ∀ was, .removed s.id was ∉ later) :
    (heardBy s.id later ++ owed s.id b).Perm (wanted s later) := by
  -- Each step moves something from what is wanted to what is owed, or from there to what is heard.
  induction more with
  | nil =>
    rw [owed_inserted run step]
    exact .refl _
  | @snoc later b b' h more next ih =>
    have kept' : ∀ was, .removed s.id was ∉ later :=
      fun was removed => kept was (List.mem_append_left _ removed)
    rw [heardBy_append, wanted_append, List.append_assoc]
    refine ((owed_next run step more next kept').symm.append_left _).trans ?_
    rw [← List.append_assoc]
    exact (ih kept').append_right _

theorem owed_of_quiet (run : Run {} history b) (id : Nat) (quiet : Quiet history) :
    owed id b = [] := by
  refine List.flatMap_eq_nil_iff.mpr fun p among => ?_
  obtain ⟨number, there⟩ := List.mem_iff_getElem?.mp among
  have bound := (List.getElem?_eq_some_iff.mp there).1
  rw [length_publishings run, List.length_nil, Nat.zero_add] at bound
  obtain ⟨line, early, told⟩ := told_run run there
  rw [owedBy, (steady_run run p among).2 (told.returned.mpr (quiet number bound)), List.drop_length]
  rfl

/-- When lines are published one after the other, they are heard in their order. -/
theorem heard_eq (run : Run {} before b₀) (step : Step b₀ (.inserted s) b₁)
    (more : Run b₁ later b) (kept : ∀ was, .removed s.id was ∉ later)
    (oneByOne : OneByOne (before ++ [.inserted s] ++ later)) :
    heardBy s.id later ++ owed s.id b = wanted s later ∧ (owed s.id b).length ≤ 1 := by
  induction more with
  | nil =>
    rw [owed_inserted run step]
    exact ⟨rfl, Nat.zero_le _⟩
  | @snoc later b b' h more next ih =>
    have kept' : ∀ was, .removed s.id was ∉ later :=
      fun was removed => kept was (List.mem_append_left _ removed)
    have whole := (run.snoc step).append more
    rw [← List.append_assoc] at oneByOne
    obtain ⟨same, few⟩ := ih kept' oneByOne.shorter
    -- At most one event is under way, so there is no order in which it could be lost.
    have room : (owed s.id b ++ wanted s [h]).length ≤ 1 := by
      cases h with
      | published line =>
        rw [owed_of_quiet whole s.id (oneByOne _ line [] rfl), List.nil_append]
        exact List.length_filter_le _ _
      | inserted | removed | asked | called | returned => simpa [wanted, lines] using few
    have passed := eq_of_short_perm (owed_next run step more next kept') room
    refine ⟨?_, ?_⟩
    · rw [heardBy_append, wanted_append, List.append_assoc, ← passed, ← List.append_assoc, same]
    · rw [passed, List.length_append] at room
      exact Nat.le_trans (Nat.le_add_left _ _) room

end Inserted

/-! ### A publishing without interruption -/

theorem run_calls {number : Nat} {p : Publishing η} {rest : List (Subscription η)}
    (there : b.publishings[number]? = some p) (ahead : p.handlers.drop p.called = rest)
    (bound : p.called ≤ p.handlers.length) :
    ∃ b', Run b (rest.map (.called number · p.event)) b' ∧ b'.table = b.table ∧
      b'.publishings[number]? = some { p with called := p.handlers.length } := by
  induction rest generalizing p b with
  | nil =>
    have all : p.called = p.handlers.length :=
      Nat.le_antisymm bound (List.drop_eq_nil_iff.mp ahead)
    exact ⟨b, .nil, rfl, by rw [there, ← all]⟩
  | cons s rest ih =>
    have next : p.handlers[p.called]? = some s := by
      rw [← List.head?_drop, ahead, List.head?_cons]
    have ahead' : p.handlers.drop (p.called + 1) = rest := by
      rw [← List.tail_drop, ahead, List.tail_cons]
    let p' := { p with called := p.called + 1 }
    have there' : (b.publishings.set number p')[number]? = some p' :=
      List.getElem?_set_self (List.getElem?_eq_some_iff.mp there).1
    obtain ⟨b', run, table, all⟩ := ih (b := { b with publishings := b.publishings.set number p' })
      there' ahead' (List.getElem?_eq_some_iff.mp next).1
    exact ⟨b', (Run.nil.snoc (.call there next)).append run, table, all⟩

/-- Where nothing comes between, a publishing calls the recipients in the order of the table. -/
theorem run_publish (b : Traffic η) (line : String) :
    ∃ b', b'.table = b.table ∧
      Run b ([.published line] ++
        (b.table.recipients (.ofLine line)).map (.called b.publishings.length · (.ofLine line)) ++
        [.returned b.publishings.length (b.table.recipients (.ofLine line)).length]) b' := by
  have begins := Run.nil.snoc (.publish b line (.refl _))
  let p : Publishing η := { event := .ofLine line, handlers := b.table.recipients (.ofLine line) }
  have there : (b.publishings ++ [p])[b.publishings.length]? = some p := List.getElem?_concat_length
  obtain ⟨b', run, table, there⟩ :=
    run_calls (b := { b with publishings := b.publishings ++ [p] }) there rfl (Nat.zero_le _)
  refine ⟨_, ?_, (begins.append run).snoc (.finish there rfl rfl)⟩
  exact table

end Traffic

end EdgeReveal
