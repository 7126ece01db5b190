import EdgeReveal.Proofs.Machine.Reasons
import EdgeReveal.Proofs.Sampling.Race
import Mathlib.Data.List.Induction

/-!
# Where a settled visibility comes from

A tick that settles a visibility finishes what an earlier tick began: that one
entered the pending state, for a reason that the samples gave it, and since then
the slot has held the pending state and no sample has called for the other one.
What carries this is that the timer of a slot found pending is the time of the
tick that entered it, whatever ticks that lost their exchange have done to it.
-/
namespace EdgeReveal

/-- A fresh controller: the panel is shown and no geometry is known. -/
def Scene.fresh (settings : Settings) (now : Nat) : Scene := { machine := .create settings now }

namespace Race

/-- The zone that the machine is shown by a move of the sampler. -/
def sighted (r : Race) : Move → List Zone
  | .sampler =>
    match r.phase with
    | .placed _ height => [r.scene.machine.thresholds.classify height]
    | _ => []
  | .override _ | .cache _ | .mailbox _ => []

/-- The zones of all samples observed in the course of `moves`; skipped samples are not among
them. -/
def zones (samples : Nat → Sample) (r : Race) (moves : List Move) : List Zone :=
  r.gather samples sighted moves

/-- What the tick in progress has loaded, as long as it may still exchange it. -/
def view (r : Race) : Option Visibility :=
  match r.phase with
  | .loaded current | .aimed current _ | .placed current _ | .judged current _ => some current
  | .ready | .announcing _ | .done _ => none

variable {settings : Settings} {samples : Nat → Sample} {start r : Race} {zones : List Zone}
  {front before between : List Move} {pending : Visibility}

theorem Idle.sighted (idle : r.Idle) : r.sighted .sampler = [] := by
  rcases idle with ready | ⟨outcome, done⟩
  · simp only [Race.sighted, ready]
  · simp only [Race.sighted, done]

/-! ### The samples observed -/

/-- What holds of a race whose machine has been shown `zones`. -/
structure Watched (settings : Settings) (samples : Nat → Sample) (r : Race)
    (zones : List Zone) : Prop where
  sound : r.Sound settings samples
  counts : r.scene.machine.Counts zones
  judged : ∀ current decided, r.phase = .judged current decided → [decided.zone] <:+ zones
  /-- Only an override can have come between. -/
  view : ∀ current, r.view = some current → r.slot = current ∨ r.slot = .visible

theorem Watched.act (watched : Watched settings samples r zones) :
    Watched settings samples (r.act samples) (zones ++ r.sighted .sampler) := by
  have sound := watched.sound.act
  have acts := acts_act samples r
  have stale := watched.view
  generalize r.act samples = r' at acts sound ⊢
  cases acts with
  | load idle =>
    rw [idle.sighted, List.append_nil]
    refine ⟨sound, watched.counts, fun current decided stage => (by cases stage), ?_⟩
    intro current loaded
    exact .inl (Option.some.inj loaded)
  | judge stage =>
    simp only [sighted, stage]
    simp only [Race.view, stage] at stale
    refine ⟨sound, watched.counts.observe _ _ _, fun current decided judged => ?_, stale⟩
    obtain ⟨rfl, rfl⟩ := Phase.judged.inj judged
    rw [Machine.observe_zone]
    exact List.suffix_append _ _
  | aim stage | place stage =>
    simp only [sighted, stage, List.append_nil]
    simp only [Race.view, stage] at stale
    exact ⟨sound, watched.counts, fun current decided judged => (by cases judged), stale⟩
  | pointerLost stage | skip stage | keep stage | yield stage | announce stage =>
    simp only [sighted, stage, List.append_nil]
    exact ⟨sound, watched.counts, fun current decided judged => (by cases judged),
      fun current loaded => by cases loaded⟩
  | @exchange taken exchanges =>
    simp only [sighted, exchanges.1, List.append_nil]
    refine ⟨sound, watched.counts, fun current decided judged => ?_, fun current loaded => ?_⟩
    · cases committed : taken.committed <;> simp [committed] at judged
    · cases committed : taken.committed <;> simp [Race.view, committed] at loaded

theorem Watched.step (watched : Watched settings samples r zones) (move : Move) :
    Watched settings samples (r.step samples move) (zones ++ r.sighted move) := by
  cases move with
  | sampler => exact watched.act
  | override event =>
    rw [sighted, List.append_nil]
    exact ⟨watched.sound.step _, watched.counts, watched.judged, fun _ _ => .inr rfl⟩
  | cache written | mailbox left =>
    rw [sighted, List.append_nil]
    exact ⟨watched.sound.step _, watched.counts, watched.judged, watched.view⟩

theorem watched_run (settings : Settings) (now : Nat) (samples : Nat → Sample)
    (moves : List Move) :
    Watched settings samples ((opening (.fresh settings now)).run samples moves)
      ((opening (.fresh settings now)).zones samples moves) := by
  induction moves using List.reverseRecOn with
  | nil =>
    refine ⟨⟨Machine.tuned_create settings now, fun _ _ stage => by cases stage⟩,
      Machine.counts_create settings now, fun _ _ stage => (by cases stage), ?_⟩
    intro current loaded
    cases loaded
  | append_singleton moves move ih =>
    rw [run_append, Race.zones, gather_concat]
    exact ih.step move

/-! ### The tick that entered a pending state -/

theorem next_step (samples : Nat → Sample) (r : Race) (move : Move) :
    r.next ≤ (r.step samples move).next := by
  by_cases other : move = .sampler
  · subst other
    change r.next ≤ (r.act samples).next
    have acts := acts_act samples r
    generalize r.act samples = r' at acts ⊢
    cases acts with
    | load => exact Nat.le_refl _
    | pointerLost stage | aim stage | skip stage | place stage | judge stage | keep stage
    | yield stage | announce stage =>
      simp [next, upcoming, stage]
    | @exchange taken exchanges =>
      cases taken.committed <;> simp [next, upcoming, exchanges.1]
  · obtain ⟨phase, tick, -, -⟩ := step_frame samples r other
    exact Nat.le_of_eq (by rw [next, next, upcoming, upcoming, phase, tick])

/-- The slot has held `pending` throughout `between`, since some tick entered it for a reason
right after `before`. -/
structure Entered (settings : Settings) (samples : Nat → Sample) (start : Race)
    (pending : Visibility) (front before between : List Move) : Prop where
  split : front = before ++ .sampler :: between
  enters : ∃ entered, (start.run samples before).Exchanges entered ∧ entered.next = pending
  called : CallsFor settings pending (start.zones samples before)
  earlier : (start.run samples before).tick < (start.run samples front).next
  held : ∀ part, part <+: between →
    (start.run samples (before ++ .sampler :: part)).slot = pending

/-- The timer still is the time of that tick, and no sample since then has called for the
opposite. -/
structure Unopposed (settings : Settings) (samples : Nat → Sample) (start : Race)
    (pending : Visibility) (front before between : List Move) : Prop where
  timer : (start.run samples front).scene.machine.timer =
    (samples (start.run samples before).tick).now
  quiet : ∀ part, part <+: between →
    ¬ CallsFor settings pending.opposite (start.zones samples (before ++ .sampler :: part))

/-- The tick in progress has restarted the timer and is going to enter the other state. -/
def Turning (r : Race) : Prop :=
  ∃ current decided, r.phase = .judged current decided ∧ decided.next ≠ current ∧
    decided.next.isPending = true

theorem Entered.concat {move : Move}
    (entered : Entered settings samples start pending front before between)
    (held : (start.run samples (front ++ [move])).slot = pending) :
    Entered settings samples start pending (front ++ [move]) before (between ++ [move]) := by
  have split : front ++ [move] = before ++ .sampler :: (between ++ [move]) := by
    rw [entered.split, List.append_assoc, List.cons_append]
  refine ⟨split, entered.enters, entered.called, ?_, fun part within => ?_⟩
  · rw [run_append]
    exact Nat.lt_of_lt_of_le entered.earlier (next_step samples _ move)
  · rcases List.prefix_concat_iff.mp within with rfl | within
    · rw [← split]
      exact held
    · exact entered.held part within

theorem Unopposed.concat {move : Move}
    (entered : Entered settings samples start pending front before between)
    (unopposed : Unopposed settings samples start pending front before between)
    (timer : (start.run samples (front ++ [move])).scene.machine.timer =
      (start.run samples front).scene.machine.timer)
    (quiet : ¬ CallsFor settings pending.opposite (start.zones samples (front ++ [move]))) :
    Unopposed settings samples start pending (front ++ [move]) before (between ++ [move]) := by
  refine ⟨timer.trans unopposed.timer, fun part within => ?_⟩
  rcases List.prefix_concat_iff.mp within with rfl | within
  · rw [entered.split, List.append_assoc, List.cons_append] at quiet
    exact quiet
  · exact unopposed.quiet part within

/-- The entry of the pending state that the slot holds, if it holds one. -/
def Traced (settings : Settings) (samples : Nat → Sample) (start : Race) (front : List Move) :
    Prop :=
  (start.run samples front).slot.isPending = true → ∃ before between,
    Entered settings samples start (start.run samples front).slot front before between ∧
      (Unopposed settings samples start (start.run samples front).slot front before between ∨
        (start.run samples front).Turning)

theorem Traced.concat {move : Move} (traced : Traced settings samples start front)
    (slot : (start.run samples (front ++ [move])).slot = (start.run samples front).slot)
    (timer : (start.run samples (front ++ [move])).scene.machine.timer =
      (start.run samples front).scene.machine.timer)
    (unseen : (start.run samples front).sighted move = [])
    (turning : (start.run samples front).Turning →
      (start.run samples (front ++ [move])).Turning) :
    Traced settings samples start (front ++ [move]) := by
  intro isPending
  rw [slot] at isPending ⊢
  obtain ⟨before, between, entered, how⟩ := traced isPending
  refine ⟨before, between ++ [move], entered.concat slot, ?_⟩
  rcases how with unopposed | turns
  · refine .inl (unopposed.concat entered timer ?_)
    have quiet := unopposed.quiet between List.prefix_rfl
    rw [← entered.split] at quiet
    rw [Race.zones, gather_concat, unseen, List.append_nil]
    exact quiet
  · exact .inr (turning turns)

/-- The sample of a tick in progress either leaves the pending state alone or turns round. -/
theorem Traced.judge {current : Visibility} {height : Int32}
    (traced : Traced settings samples start front)
    (watched : Watched settings samples (start.run samples front) (start.zones samples front))
    (stage : (start.run samples front).phase = .placed current height) :
    Traced settings samples start (front ++ [.sampler]) := by
  have acted : start.run samples (front ++ [.sampler]) = (start.run samples front).act samples :=
    run_append _ _
  rw [act_of_placed stage] at acted
  have slot : (start.run samples (front ++ [.sampler])).slot = (start.run samples front).slot := by
    rw [acted]
    rfl
  have zones : start.zones samples (front ++ [.sampler]) = start.zones samples front ++
      [(start.run samples front).scene.machine.thresholds.classify height] := by
    rw [Race.zones, gather_concat, sighted, stage]
    rfl
  intro isPending
  rw [slot] at isPending ⊢
  obtain ⟨before, between, entered, how⟩ := traced isPending
  refine ⟨before, between ++ [.sampler], entered.concat slot, ?_⟩
  -- the tick has loaded this pending state: an override would have left the slot visible
  obtain rfl : current = (start.run samples front).slot := by
    rcases watched.view current (by rw [view, stage]) with same | visible
    · exact same.symm
    · rw [visible] at isPending
      cases isPending
  rcases Machine.observe_turns watched.sound.tuned.delayed (start.run samples front).slot height
    (samples (start.run samples front).tick).now with ⟨quiet, observed⟩ | ⟨moves, turns⟩
  · left
    have unopposed : Unopposed settings samples start (start.run samples front).slot front before
        between := by
      rcases how with unopposed | ⟨loaded, decided, judged, -⟩
      · exact unopposed
      · rw [stage] at judged
        cases judged
    refine unopposed.concat entered ?_ ?_
    · rw [acted]
      dsimp only
      rw [observed, Machine.counted_eq]
    · rw [zones]
      exact not_callsFor_of_quiet (watched.sound.tuned.counted height)
        (watched.counts.tally _) isPending quiet
  · right
    rw [acted]
    exact ⟨_, _, rfl, moves, turns⟩

/-- An exchange that enters a pending state starts its trace. -/
theorem Traced.exchange {decided : Step}
    (watched : Watched settings samples (start.run samples front) (start.zones samples front))
    (exchanges : (start.run samples front).Exchanges decided) :
    Traced settings samples start (front ++ [.sampler]) := by
  have acted : start.run samples (front ++ [.sampler]) = (start.run samples front).act samples :=
    run_append _ _
  rw [exchanges.act] at acted
  have slot : (start.run samples (front ++ [.sampler])).slot = decided.next := by
    rw [acted]
    rfl
  have zones : start.zones samples (front ++ [.sampler]) = start.zones samples front := by
    rw [Race.zones, gather_concat, sighted, exchanges.1]
    exact List.append_nil _
  intro isPending
  rw [slot] at isPending ⊢
  have leads := watched.sound.judged _ _ exchanges.1
  obtain ⟨called, restarted, uncommitted⟩ := leads.enters watched.sound.tuned watched.counts
    (watched.judged _ _ exchanges.1) exchanges.2 isPending
  refine ⟨front, [], ⟨rfl, ⟨decided, exchanges, rfl⟩, called, ?_, ?_⟩, .inl ⟨?_, ?_⟩⟩
  · rw [acted, uncommitted]
    exact Nat.lt_succ_self _
  · intro part within
    obtain rfl := List.prefix_nil.mp within
    exact slot
  · rw [acted]
    exact restarted
  · intro part within
    obtain rfl := List.prefix_nil.mp within
    rw [zones]
    exact not_callsFor_opposite called

theorem Traced.step (traced : Traced settings samples start front)
    (watched : Watched settings samples (start.run samples front) (start.zones samples front))
    (move : Move) : Traced settings samples start (front ++ [move]) := by
  have acted : start.run samples (front ++ [move]) = (start.run samples front).step samples move :=
    run_append _ _
  cases move with
  | override event =>
    -- the slot is visible now, so there is nothing to trace
    intro isPending
    rw [acted] at isPending
    cases isPending
  | cache written | mailbox left =>
    refine traced.concat ?_ ?_ rfl fun turning => ?_
    · rw [acted]
      rfl
    · rw [acted]
      rfl
    · rw [acted]
      exact turning
  | sampler =>
    have acts := acts_act samples (start.run samples front)
    have acted : start.run samples (front ++ [.sampler]) =
        (start.run samples front).act samples := acted
    generalize (start.run samples front).act samples = r' at acts acted
    cases acts with
    | judge stage => exact traced.judge watched stage
    | exchange exchanges => exact .exchange watched exchanges
    | load idle =>
      refine traced.concat (by rw [acted]; rfl) (by rw [acted]) idle.sighted ?_
      rintro ⟨current, decided, judged, -⟩
      exact absurd judged (idle.not_judged current decided)
    | pointerLost stage | aim stage | skip stage | place stage | announce stage =>
      refine traced.concat (by rw [acted]; rfl) (by rw [acted]) (by rw [sighted, stage]) ?_
      rintro ⟨current, decided, judged, -⟩
      rw [stage] at judged
      cases judged
    | keep stage same =>
      refine traced.concat (by rw [acted]; rfl) (by rw [acted]) (by rw [sighted, stage]) ?_
      rintro ⟨current, decided, judged, moves, -⟩
      rw [stage] at judged
      obtain ⟨rfl, rfl⟩ := Phase.judged.inj judged
      exact absurd same moves
    | yield stage moves taken =>
      -- a lost exchange may have restarted the timer, but then the slot is visible
      have visible : (start.run samples front).slot = .visible := by
        rcases watched.view _ (by rw [view, stage]) with same | visible
        · exact absurd same taken
        · exact visible
      intro isPending
      have slot : (start.run samples (front ++ [.sampler])).slot = .visible := by
        rw [acted]
        exact visible
      rw [slot] at isPending
      cases isPending

/-- The entry of a pending state that the slot holds is known at every moment of every run. -/
theorem traced_run (settings : Settings) (now : Nat) (samples : Nat → Sample)
    (moves : List Move) : Traced settings samples (opening (.fresh settings now)) moves := by
  induction moves using List.reverseRecOn with
  | nil =>
    intro isPending
    cases isPending
  | append_singleton moves move ih => exact ih.step (watched_run settings now samples moves) move

theorem Entered.not_mem_override (unsettled : pending ≠ .visible)
    (entered : Entered settings samples start pending front before between) (event : String) :
    .override event ∉ between := by
  intro within
  obtain ⟨part, rest, rfl⟩ := List.append_of_mem within
  have held := entered.held (part ++ [.override event]) ⟨rest, (List.append_cons _ _ _).symm⟩
  rw [← List.cons_append, ← List.append_assoc, run_append] at held
  exact unsettled held.symm

/-- The exchange after `front` completes the one after `before`, which took the step `entered`
at least `delay` earlier; `opposing` are the last samples that would have called it off. -/
structure Completes (samples : Nat → Sample) (start : Race) (entered : Step) (delay : Nat)
    (opposing : List Zone) (front before between : List Move) : Prop where
  split : front = before ++ .sampler :: between
  began : (start.run samples before).Exchanges entered
  earlier : (start.run samples before).tick < (start.run samples front).tick
  due : (samples (start.run samples before).tick).now + delay ≤
    (samples (start.run samples front).tick).now
  held : ∀ part, part <+: between →
    (start.run samples (before ++ .sampler :: part)).slot = entered.next
  unopposed : ∀ part, part <+: between →
    ¬ opposing <:+ start.zones samples (before ++ .sampler :: part)
  undisturbed : ∀ event, .override event ∉ between

/-- What is left to check is that the delay is over. -/
theorem Entered.completes {entered : Step} {delay : Nat} {opposing : List Zone}
    (entry : Entered settings samples start entered.next front before between)
    (unopposed : Unopposed settings samples start entered.next front before between)
    (began : (start.run samples before).Exchanges entered)
    (underway : (start.run samples front).next = (start.run samples front).tick)
    (opposes : ∀ zones, opposing <:+ zones → CallsFor settings entered.next.opposite zones)
    (unsettled : entered.next ≠ .visible) (positive : 0 < delay)
    (due : delay ≤ (samples (start.run samples front).tick).now -
      (start.run samples front).scene.machine.timer) :
    Completes samples start entered delay opposing front before between := by
  refine ⟨entry.split, began, underway ▸ entry.earlier, ?_, entry.held, ?_,
    entry.not_mem_override unsettled⟩
  · -- a clock that went backwards would leave a difference of zero
    rw [unopposed.timer] at due
    omega
  · intro part within opposed
    exact unopposed.quiet part within (opposes _ opposed)

/-- A tick that settles the slot finishes what an earlier tick has begun. -/
theorem settling_traced {now : Nat} {decided : Step}
    (exchanges : ((opening (.fresh settings now)).run samples front).Exchanges decided)
    (settles : decided.next.isPending = false)
    (isPending : ((opening (.fresh settings now)).run samples front).slot.isPending = true) :
    ∃ before between,
      Entered settings samples (opening (.fresh settings now))
        ((opening (.fresh settings now)).run samples front).slot front before between ∧
      Unopposed settings samples (opening (.fresh settings now))
        ((opening (.fresh settings now)).run samples front).slot front before between := by
  obtain ⟨before, between, entered, unopposed | turning⟩ :=
    traced_run settings now samples front isPending
  · exact ⟨before, between, entered, unopposed⟩
  · -- a tick that turns round does not settle
    obtain ⟨current, turned, judged, -, turns⟩ := turning
    rw [exchanges.1] at judged
    obtain ⟨-, rfl⟩ := Phase.judged.inj judged
    rw [settles] at turns
    cases turns

/-- Whenever a tick hides the panel, it completes an earlier tick that entered the pending state
on a concealing sample: no override and no confirmed show has come between. Whenever a tick shows
the panel, it completes one that entered the pending state on a confirmed show: no override and
no concealing sample has come between. -/
theorem settling_provenance (settings : Settings) (now : Nat) (samples : Nat → Sample)
    (front : List Move) (decided : Step)
    (exchanges : ((opening (.fresh settings now)).run samples front).Exchanges decided) :
    (decided.next = .hidden → ∃ before between,
      Completes samples (opening (.fresh settings now)) ⟨.conceal, .pendingHidden, false⟩
        (milliseconds settings.hideDelayMillis)
        (List.replicate settings.requiredChecks .reveal) front before between) ∧
    (decided.next = .visible → ∃ before between,
      Completes samples (opening (.fresh settings now)) ⟨.reveal, .pendingVisible, false⟩
        (milliseconds settings.showDelayMillis) [.conceal] front before between ∧
      List.replicate settings.requiredChecks .reveal <:+
        (opening (.fresh settings now)).zones samples before) := by
  have watched := watched_run settings now samples
  have leads := (watched front).sound.judged _ _ exchanges.1
  have tuned := (watched front).sound.tuned
  have underway : ((opening (.fresh settings now)).run samples front).next =
      ((opening (.fresh settings now)).run samples front).tick := by
    rw [next, upcoming, exchanges.1]
  constructor
  · intro hides
    obtain ⟨slot, due⟩ := leads.of_hidden exchanges.2 hides
    obtain ⟨before, between, entered, unopposed⟩ :=
      settling_traced exchanges (by rw [hides]; rfl) (by rw [slot]; rfl)
    rw [slot] at entered unopposed
    obtain ⟨step, began, enters⟩ := entered.enters
    obtain rfl := ((watched before).sound.judged _ _ began.1).of_pendingHidden began.2 enters
    rw [← tuned.hideDelay]
    exact ⟨before, between, entered.completes unopposed began underway (fun _ opposed => opposed)
      (by decide) tuned.delayed.hideDelay_pos due⟩
  · intro shows
    obtain ⟨slot, due⟩ := leads.of_visible exchanges.2 shows
    obtain ⟨before, between, entered, unopposed⟩ :=
      settling_traced exchanges (by rw [shows]; rfl) (by rw [slot]; rfl)
    rw [slot] at entered unopposed
    obtain ⟨step, began, enters⟩ := entered.enters
    obtain rfl := ((watched before).sound.judged _ _ began.1).of_pendingVisible began.2 enters
    rw [← tuned.showDelay]
    exact ⟨before, between, entered.completes unopposed began underway (fun _ opposed => opposed)
      (by decide) tuned.delayed.showDelay_pos due, entered.called⟩

theorem settling_provenance_visit :
    (∃ before between,
      Completes visit (opening (.fresh {} 0)) ⟨.conceal, .pendingHidden, false⟩
        (milliseconds ({} : Settings).hideDelayMillis)
        (List.replicate ({} : Settings).requiredChecks .reveal) (undisturbed 9) before between) ∧
    ∃ before between,
      Completes visit (opening (.fresh {} 0)) ⟨.reveal, .pendingVisible, false⟩
        (milliseconds ({} : Settings).showDelayMillis) [.conceal] (undisturbed 25) before
        between ∧
      List.replicate ({} : Settings).requiredChecks .reveal <:+
        (opening (.fresh {} 0)).zones visit before := by
  have hides : ((opening (.fresh {} 0)).run visit (undisturbed 9)).Exchanges
      ⟨.conceal, .hidden, true⟩ := by decide
  have shows : ((opening (.fresh {} 0)).run visit (undisturbed 25)).Exchanges
      ⟨.reveal, .visible, true⟩ := by decide
  exact ⟨(settling_provenance {} 0 visit (undisturbed 9) _ hides).1 rfl,
    (settling_provenance {} 0 visit (undisturbed 25) _ shows).2 rfl⟩

end Race

end EdgeReveal
