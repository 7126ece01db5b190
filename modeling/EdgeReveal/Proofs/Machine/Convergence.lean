import EdgeReveal.Proofs.Machine.Course

/-!
# A pointer that stays where it is

As long as every sample calls for the same pending state, the course heads for the settled state
behind it: from wherever it was, the first such sample puts it there or on the way, with a timer
that does not start later, and from then on only the delay counts. The timer left over from
before is no later than any sample so far, which is all that has to be known of it.
-/
namespace EdgeReveal

namespace Course

variable {settings : Settings} {c : Course} {s : Sighting} {zones : List Zone}
  {pending : Visibility} {time : Nat} {later : List Sighting}

/-- A pending state that holds was entered by `time`. -/
def Bounded (time : Nat) (c : Course) : Prop :=
  c.state.isPending = true → c.machine.timer ≤ time

/-- The course is at the goal of `pending`, or has been waiting for it since `time` at the
latest. -/
def Heading (pending : Visibility) (time : Nat) (c : Course) : Prop :=
  c.state = pending.goal ∨ c.state = pending ∧ c.machine.timer ≤ time

theorem Bounded.step (shown : Shown settings zones c) (bounded : Bounded time c)
    (past : s.now ≤ time) : Bounded time (c.step s) := by
  intro isPending
  rw [state_step] at isPending
  cases steps shown s with
  | enter arms verdict timer =>
    rw [timer]
    exact past
  | settle quiet due verdict =>
    have settled := settled_of_settles due
    rw [verdict] at isPending
    rw [isPending] at settled
    cases settled
  | stay quiet early verdict timer =>
    rw [verdict] at isPending
    rw [timer]
    exact bounded isPending

theorem Bounded.run (shown : Shown settings zones c) (bounded : Bounded time c)
    (past : ∀ s ∈ later, s.now ≤ time) : Bounded time (c.run later) := by
  induction later generalizing c zones with
  | nil => exact bounded
  | cons s rest ih =>
    have stepped := bounded.step shown (past s List.mem_cons_self)
    exact ih (shown.step s) stepped fun t within => past t (List.mem_cons_of_mem s within)

/-- Wherever the course is, a sample that calls for a pending state heads it there. -/
theorem heading_of_called (shown : Shown settings zones c) (bounded : Bounded time c)
    (past : s.now ≤ time)
    (called : CallsFor settings pending (zones ++ [settings.zone s])) :
    Heading pending time (c.step s) := by
  by_cases there : c.state = pending.goal
  · left
    rw [state_step, verdict_of_goal shown called there]
    exact there
  by_cases waits : c.state = pending
  · -- on the way already, with a timer from before
    subst waits
    have isPending := isPending_of_callsFor called
    have uncalled := not_callsFor_opposite called
    obtain ⟨verdict, timer⟩ := verdict_of_uncalled shown isPending uncalled
    rw [Heading, state_step, verdict]
    split
    · exact .inl rfl
    · refine .inr ⟨rfl, ?_⟩
      rw [timer]
      exact bounded isPending
  · right
    obtain ⟨verdict, timer⟩ := verdict_of_called shown called waits there
    refine ⟨?_, ?_⟩
    · rw [state_step, verdict]
    · rw [timer]
      exact past

/-- A course that is heading for a goal goes on heading for it, and is there once the delay is
over. -/
theorem Heading.step (shown : Shown settings zones c) (heading : Heading pending time c)
    (called : CallsFor settings pending (zones ++ [settings.zone s])) :
    Heading pending time (c.step s) ∧
      (time + settings.wait pending ≤ s.now → (c.step s).state = pending.goal) := by
  rcases heading with there | ⟨waits, since⟩
  · have stays : (c.step s).state = pending.goal := by
      rw [state_step, verdict_of_goal shown called there]
      exact there
    exact ⟨.inl stays, fun _ => stays⟩
  · subst waits
    have isPending := isPending_of_callsFor called
    obtain ⟨verdict, timer⟩ :=
      verdict_of_uncalled shown isPending (not_callsFor_opposite called)
    rw [Heading, state_step, verdict, timer]
    split
    next due => exact ⟨.inl rfl, fun _ => rfl⟩
    next early =>
      refine ⟨.inr ⟨rfl, since⟩, fun due => ?_⟩
      -- the timer started no later than `time`, so the delay is over
      have passed : settings.wait c.state ≤ s.now - c.machine.timer := by omega
      exact absurd passed early

/-- Every one of the samples, as it comes, calls for the pending state. -/
def Calls (settings : Settings) (pending : Visibility) (zones : List Zone)
    (later : List Sighting) : Prop :=
  ∀ part next, part ++ [next] <+: later →
    CallsFor settings pending (zones ++ part.map settings.zone ++ [settings.zone next])

theorem Heading.run (shown : Shown settings zones c) (heading : Heading pending time c)
    (calls : Calls settings pending zones later) : Heading pending time (c.run later) := by
  induction later using List.reverseRecOn with
  | nil => exact heading
  | append_singleton later s ih =>
    have before : Heading pending time (c.run later) :=
      ih fun part next within => calls part next (within.trans (List.prefix_append _ _))
    rw [run_append]
    exact (before.step (shown.run later) (calls later s List.prefix_rfl)).1

/-- From the first sample of a run of them that call for a pending state, it takes no longer than
its delay until the course has settled. -/
theorem settled_of_calls {first last : Sighting} (shown : Shown settings zones c)
    (bounded : Bounded first.now c)
    (calls : Calls settings pending zones (first :: later ++ [last]))
    (due : first.now + settings.wait pending ≤ last.now) :
    (c.run (first :: later ++ [last])).state = pending.goal := by
  have zones_cons (part : List Sighting) : zones ++ (first :: part).map settings.zone =
      zones ++ [settings.zone first] ++ part.map settings.zone := by simp
  have called := calls [] first (List.prefix_append [first] _)
  rw [List.map_nil, List.append_nil] at called
  have begun : Heading pending first.now (c.step first) :=
    heading_of_called shown bounded (Nat.le_refl _) called
  have goes : Heading pending first.now ((c.step first).run later) := by
    refine begun.run (shown.step first) fun part next within => ?_
    have longer : first :: part ++ [next] <+: first :: later ++ [last] :=
      (List.prefix_append_right_inj [first]).mpr (within.trans (List.prefix_append _ _))
    have called := calls (first :: part) next longer
    rw [zones_cons] at called
    exact called
  have called := calls (first :: later) last List.prefix_rfl
  rw [zones_cons] at called
  rw [run_append]
  exact (goes.step ((shown.step first).run later) called).2 due

/-! ### The two directions -/

theorem calls_of_concealing (conceals : ∀ s ∈ later, settings.zone s = .conceal) :
    Calls settings .pendingHidden zones later := by
  intro part next within
  rw [conceals next (within.subset (by simp))]
  exact List.suffix_append _ _

/-- With one sample less than a show takes, every further revealing sample calls for it. -/
theorem calls_of_revealing {head : List Sighting}
    (enough : head.length + 1 = settings.requiredChecks)
    (reveals : ∀ s ∈ head ++ later, settings.zone s = .reveal) :
    Calls settings .pendingVisible (zones ++ head.map settings.zone) later := by
  intro part next within
  have revealing : (head ++ (part ++ [next])).map settings.zone =
      List.replicate (head ++ (part ++ [next])).length .reveal := by
    rw [List.eq_replicate_iff]
    refine ⟨List.length_map _, ?_⟩
    intro zone member
    obtain ⟨s, seen, rfl⟩ := List.mem_map.mp member
    have short : head ++ (part ++ [next]) <+: head ++ later :=
      (List.prefix_append_right_inj head).mpr within
    exact reveals s (short.subset seen)
  have long : settings.requiredChecks ≤ (head ++ (part ++ [next])).length := by
    rw [← enough, List.length_append, List.length_append, List.length_singleton]
    omega
  have run : List.replicate settings.requiredChecks Zone.reveal <:+
      (head ++ (part ++ [next])).map settings.zone := by
    rw [revealing]
    exact List.suffix_replicate_iff.mpr ⟨by simpa using long, by simp⟩
  have split : zones ++ head.map settings.zone ++ part.map settings.zone ++ [settings.zone next] =
      zones ++ (head ++ (part ++ [next])).map settings.zone := by simp
  rw [split]
  exact run.trans (List.suffix_append _ _)

/-- The panel is shown to begin with, so nothing is pending that has not been entered since. -/
theorem bounded_run (settings : Settings) (origin : Nat) {sightings : List Sighting}
    (past : ∀ s ∈ sightings, s.now ≤ time) :
    Bounded time ((begin settings origin .visible).run sightings) := by
  have fresh : Bounded time (begin settings origin .visible) := by
    intro isPending
    cases isPending
  exact fresh.run (shown_run settings origin .visible []) past

/-- Whatever the samples so far have been, in any order of times: if from now on all samples
conceal, the panel is hidden as soon as the delay has passed since the first of them; and if all
reveal, it is shown as soon as the delay has passed since the one that makes their number what a
show takes. The samples to come must not go back in time, nor behind those before them. -/
theorem steady_settles (settings : Settings) (origin : Nat) (before later : List Sighting)
    (ordered : later.Pairwise fun s t => s.now ≤ t.now)
    (onwards : ∀ s ∈ before, ∀ t ∈ later, s.now ≤ t.now) :
    ((∀ s ∈ later, settings.zone s = .conceal) →
      ∀ first part last, later.head? = some first → part ++ [last] <+: later →
        first.now + milliseconds settings.hideDelayMillis ≤ last.now →
        ((begin settings origin .visible).run (before ++ (part ++ [last]))).state = .hidden) ∧
    ((∀ s ∈ later, settings.zone s = .reveal) →
      ∀ head confirming part last, head ++ (confirming :: part ++ [last]) <+: later →
        head.length + 1 = settings.requiredChecks →
        confirming.now + milliseconds settings.showDelayMillis ≤ last.now →
        ((begin settings origin .visible).run
          (before ++ (head ++ (confirming :: part ++ [last])))).state = .visible) := by
  constructor
  · intro conceals first part last starts within due
    have calls : Calls settings .pendingHidden (before.map settings.zone) (part ++ [last]) :=
      calls_of_concealing fun s member => conceals s (within.subset member)
    have member : first ∈ later := List.mem_of_mem_head? starts
    have bounded := bounded_run settings origin fun s earlier => onwards s earlier first member
    rw [run_append]
    cases part with
    | nil =>
      -- the first sample itself comes before its deadline
      obtain ⟨rest, rfl⟩ := within
      obtain rfl := Option.some.inj starts
      have positive : 0 < milliseconds settings.hideDelayMillis :=
        wait_pos settings (rfl : Visibility.isPending .pendingHidden = true)
      omega
    | cons same part =>
      obtain ⟨rest, rfl⟩ := within
      obtain rfl := Option.some.inj starts
      exact settled_of_calls (shown_run settings origin .visible before) bounded calls due
  · intro reveals head confirming part last within enough due
    have calls : Calls settings .pendingVisible (before.map settings.zone ++ head.map settings.zone)
        (confirming :: part ++ [last]) :=
      calls_of_revealing enough fun s member => reveals s (within.subset member)
    have times := ordered.sublist within.sublist
    rw [List.pairwise_append] at times
    have bounded : Bounded confirming.now
        ((begin settings origin .visible).run (before ++ head)) := by
      refine bounded_run settings origin fun s earlier => ?_
      rcases List.mem_append.mp earlier with earlier | earlier
      · exact onwards s earlier confirming (within.subset (by simp))
      · exact times.2.2 s earlier confirming (by simp)
    have shown := shown_run settings origin .visible (before ++ head)
    rw [List.map_append] at shown
    rw [← List.append_assoc before, run_append]
    exact settled_of_calls shown bounded calls due

/-- With the standard settings: a hide pending already goes through, and one that would be due is
turned round by the second revealing sample and leads to a show. -/
theorem steady_settles_pending :
    ((begin {} 0 .visible).run ([⟨80, 0⟩, ⟨0, milliseconds 100⟩] ++
        ([⟨80, milliseconds 1000⟩] ++ [⟨90, milliseconds 4000⟩]))).state = .hidden ∧
      ((begin {} 0 .visible).run ([⟨80, 0⟩] ++ ([⟨0, milliseconds 2990⟩] ++
        (⟨0, milliseconds 3000⟩ :: [] ++ [⟨0, milliseconds 3010⟩])))).state = .visible := by
  have hides := (steady_settles {} 0 [⟨80, 0⟩, ⟨0, milliseconds 100⟩]
    [⟨80, milliseconds 1000⟩, ⟨90, milliseconds 4000⟩] (by decide) (by decide)).1 (by decide)
    ⟨80, milliseconds 1000⟩ [⟨80, milliseconds 1000⟩] ⟨90, milliseconds 4000⟩ rfl
    List.prefix_rfl (by decide)
  have shows := (steady_settles {} 0 [⟨80, 0⟩]
    [⟨0, milliseconds 2990⟩, ⟨0, milliseconds 3000⟩, ⟨0, milliseconds 3010⟩] (by decide)
    (by decide)).2 (by decide) [⟨0, milliseconds 2990⟩] ⟨0, milliseconds 3000⟩ []
    ⟨0, milliseconds 3010⟩ List.prefix_rfl (by decide) (by decide)
  exact ⟨hides, shows⟩

end Course

end EdgeReveal
