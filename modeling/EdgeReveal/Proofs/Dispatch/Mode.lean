import EdgeReveal.Proofs.Dispatch.Runtime
import Mathlib.Algebra.Group.Nat.Even
import Mathlib.Data.List.Induction

/-!
# Which mode is drawn

A rendering draws the mode that its visibility stands for, and a pending
visibility stands for the mode of the settled state that it is usually entered
from. A pending state can also be entered from the other pending state, and
then it stands for the opposite mode, although nothing has settled in between.
So a rendering agrees with the last settled state exactly if the slot has gone
directly from pending to pending an even number of times since then.
-/
namespace EdgeReveal

/-- How one turn may change the slot. -/
inductive Follows : Visibility → Visibility → Prop
  | same (v : Visibility) : Follows v v
  | settle {before now : Visibility} (settled : now.isPending = false) : Follows before now
  | enter {before now : Visibility} (settled : before.isPending = false)
      (isPending : now.isPending = true) (kept : now.shown = before.shown) : Follows before now
  | turn {before now : Visibility} (wasPending : before.isPending = true)
      (isPending : now.isPending = true) (other : now ≠ before) : Follows before now

theorem Leads.follows {m : Machine} {now : Nat} {current : Visibility} {step : Step}
    (leads : Leads m now current step) : Follows current step.next := by
  cases leads with
  | kept => exact .same _
  | startHide | startShow => exact .enter rfl rfl rfl
  | turnToHide | turnToShow => exact .turn rfl rfl (by decide)
  | settleShown | settleHidden => exact .settle rfl

/-- The last settled state of a history, newest first. -/
def lastSettled (history : List Visibility) : Option Visibility := history.find? (!·.isPending)

/-- How often a history, newest first, has gone from pending to pending since it was settled. -/
def turnings : List Visibility → Nat
  | now :: before :: rest =>
    if now.isPending && before.isPending then
      turnings (before :: rest) + if now = before then 0 else 1
    else 0
  | [_] | [] => 0

section History

variable {now before settled : Visibility} {rest : List Visibility}

theorem lastSettled_cons_of_settled (settled : now.isPending = false) :
    lastSettled (now :: rest) = some now := by
  simp [lastSettled, settled]

theorem lastSettled_cons_of_pending (isPending : now.isPending = true) :
    lastSettled (now :: rest) = lastSettled rest := by
  simp [lastSettled, isPending]

theorem turnings_cons_of_settled (settled : now.isPending = false ∨ before.isPending = false) :
    turnings (now :: before :: rest) = 0 := by
  rcases settled with settled | settled <;> simp [turnings, settled]

theorem turnings_cons_of_pending (isPending : now.isPending = true)
    (wasPending : before.isPending = true) :
    turnings (now :: before :: rest) =
      turnings (before :: rest) + if now = before then 0 else 1 := by
  simp [turnings, isPending, wasPending]

/-- The mode of the newest visibility agrees with the last settled one up to the turnings. -/
def Balanced (history : List Visibility) : Prop :=
  ∃ now settled, history.head? = some now ∧ lastSettled history = some settled ∧
    (now.shown = settled.shown ↔ Even (turnings history))

theorem balanced_singleton (settled : now.isPending = false) : Balanced [now] := by
  refine ⟨now, now, rfl, lastSettled_cons_of_settled settled, ?_⟩
  simp [turnings]

theorem balanced_settled (settled : now.isPending = false) : Balanced (now :: before :: rest) := by
  refine ⟨now, now, rfl, lastSettled_cons_of_settled settled, ?_⟩
  rw [turnings_cons_of_settled (.inl settled)]
  simp

/-- The two pending states are drawn differently. -/
theorem shown_turned (wasPending : before.isPending = true) (isPending : now.isPending = true)
    (other : now ≠ before) : now.shown = !before.shown := by
  cases before with
  | visible | hidden => cases wasPending
  | pendingVisible | pendingHidden =>
    cases now with
    | visible | hidden => cases isPending
    | pendingVisible | pendingHidden => first | rfl | exact absurd rfl other

theorem Balanced.cons (balanced : Balanced (before :: rest)) (follows : Follows before now) :
    Balanced (now :: before :: rest) := by
  cases follows with
  | settle settled => exact balanced_settled settled
  | same =>
    by_cases isPending : now.isPending = true
    · obtain ⟨was, settled, head, last, mode⟩ := balanced
      obtain rfl := Option.some.inj head
      refine ⟨now, settled, rfl, (lastSettled_cons_of_pending isPending).trans last, ?_⟩
      rw [turnings_cons_of_pending isPending isPending, if_pos rfl]
      exact mode
    · exact balanced_settled (by simpa using isPending)
  | enter settled isPending kept =>
    refine ⟨now, before, rfl, ?_, ?_⟩
    · rw [lastSettled_cons_of_pending isPending]
      exact lastSettled_cons_of_settled settled
    · rw [turnings_cons_of_settled (.inr settled)]
      simp [kept]
  | turn wasPending isPending other =>
    obtain ⟨was, settled, head, last, mode⟩ := balanced
    obtain rfl := Option.some.inj head
    -- one turning more, and the other mode
    refine ⟨now, settled, rfl, (lastSettled_cons_of_pending isPending).trans last, ?_⟩
    rw [turnings_cons_of_pending isPending wasPending, if_neg other, Nat.even_add_one, ← mode,
      shown_turned wasPending isPending other]
    cases before.shown <;> cases settled.shown <;> decide

end History

namespace Runtime

variable {σ γ : Type} [Sink σ] [GeometrySource γ] {samples : Nat → Sample} {rt : Runtime σ γ}
  {turns before between : List Turn}

/-- What the slot has held so far, newest first, with one entry for every moment. -/
def past (samples : Nat → Sample) (rt : Runtime σ γ) (older : List Visibility) :
    List Turn → List Visibility
  | [] => rt.slot :: older
  | turn :: turns => (rt.step samples turn).past samples (rt.slot :: older) turns

theorem past_concat (older : List Visibility) (turns : List Turn) (turn : Turn) :
    rt.past samples older (turns ++ [turn]) =
      (rt.run samples (turns ++ [turn])).slot :: rt.past samples older turns := by
  induction turns generalizing rt older with
  | nil => rfl
  | cons first turns ih =>
    rw [List.cons_append, past, past, run_cons]
    exact ih _

theorem past_eq_cons (samples : Nat → Sample) (rt : Runtime σ γ) (older : List Visibility)
    (turns : List Turn) :
    ∃ rest, rt.past samples older turns = (rt.run samples turns).slot :: rest := by
  induction turns using List.reverseRecOn with
  | nil => exact ⟨older, rfl⟩
  | append_singleton turns turn _ => exact ⟨_, past_concat older turns turn⟩

theorem slot_follows {settings : Settings} (sound : rt.race.Sound settings samples) (turn : Turn) :
    Follows rt.slot (rt.step samples turn).slot := by
  cases turn with
  | send request | leave => exact .same _
  | sampler =>
    have acts := Race.acts_act samples rt.race
    change Follows rt.race.slot (rt.race.act samples).slot
    generalize rt.race.act samples = race at acts ⊢
    cases acts with
    | exchange exchanges => exact (sound.judged _ _ exchanges.1).follows
    | load | pointerLost | aim | skip | place | judge | keep | yield | announce => exact .same _
  | dispatcher =>
    have dispatches := dispatches_act rt
    change Follows rt.slot rt.act.slot
    generalize rt.act = rt' at dispatches ⊢
    cases dispatches with
    | start | refresh =>
      have same := slot_become_refresh rt
      change Follows rt.slot (rt.become rt.dispatcher.refresh).slot
      rw [same]
      exact .same _
    | override => exact .settle rfl
    | receive | sleep | close | drain | begin | finish | render | load | rest => exact .same _
    | @shutdown due rest => cases due <;> exact .same _
    | @apply state flow => cases flow <;> exact .same _

theorem balanced_past {settings : Settings} (turns : List Turn)
    (sound : ∀ part, part <+: turns → (rt.run samples part).race.Sound settings samples)
    (settled : rt.slot.isPending = false) : Balanced (rt.past samples [] turns) := by
  induction turns using List.reverseRecOn with
  | nil => exact balanced_singleton settled
  | append_singleton turns turn ih =>
    have balanced := ih fun part within => sound part (within.trans (List.prefix_append _ _))
    have follows := slot_follows (sound turns (List.prefix_append _ _)) turn
    obtain ⟨rest, past⟩ := past_eq_cons samples rt [] turns
    rw [past_concat, past, run_append]
    rw [past] at balanced
    exact balanced.cons follows

/-! ### The load behind a call -/

/-- The dispatcher loaded `state` right after `before` and has not called the sink since. -/
structure Loaded (samples : Nat → Sample) (start : Runtime σ γ) (state : Visibility) (flow : Flow)
    (turns before between : List Turn) : Prop where
  split : turns = before ++ .dispatcher :: between
  loading : (start.run samples before).stage = .loading flow
  slot : (start.run samples before).slot = state
  held : ∀ part, part <+: between →
    (start.run samples (before ++ .dispatcher :: part)).stage = .applying state flow

theorem act_applying {state : Visibility} {flow : Flow}
    (stage : rt.act.stage = .applying state flow) : rt.stage = .loading flow ∧ rt.slot = state := by
  have dispatches := dispatches_act rt
  generalize rt.act = rt' at dispatches stage
  cases dispatches with
  | start | receive | close | drain | begin | render | override | refresh => cases stage
  | sleep waiting => rw [waiting] at stage; cases stage
  | rest stopped => rw [stopped] at stage; cases stage
  | @finish due => cases due <;> cases stage
  | @shutdown due => cases due <;> cases stage
  | load loading =>
    cases stage
    exact ⟨loading, rfl⟩
  | @apply _ flow => cases flow <;> cases stage

theorem stage_step {turn : Turn} (other : turn ≠ .dispatcher) :
    (rt.step samples turn).stage = rt.stage := by
  cases turn with
  | dispatcher => exact absurd rfl other
  | sampler | send request | leave => rfl

theorem loaded_of_applying {state : Visibility} {flow : Flow} (fresh : rt.stage = .starting)
    (stage : (rt.run samples turns).stage = .applying state flow) :
    ∃ before between, Loaded samples rt state flow turns before between := by
  induction turns using List.reverseRecOn with
  | nil =>
    rw [run_nil, fresh] at stage
    cases stage
  | append_singleton turns turn ih =>
    by_cases other : turn = .dispatcher
    · subst other
      have acting : (rt.run samples turns).act.stage = .applying state flow := by
        rw [run_append] at stage
        exact stage
      obtain ⟨loading, slot⟩ := act_applying acting
      refine ⟨turns, [], rfl, loading, slot, fun part within => ?_⟩
      obtain rfl := List.prefix_nil.mp within
      exact stage
    · -- nobody else touches the dispatcher's stage
      have before : (rt.run samples turns).stage = .applying state flow := by
        rw [run_append] at stage
        exact (stage_step other).symm.trans stage
      obtain ⟨front, between, loaded⟩ := ih before
      have split : turns ++ [turn] = front ++ .dispatcher :: (between ++ [turn]) := by
        rw [loaded.split, List.append_assoc, List.cons_append]
      refine ⟨front, between ++ [turn], split, loaded.loading, loaded.slot, fun part within => ?_⟩
      rcases List.prefix_concat_iff.mp within with rfl | within
      · rw [← split]
        exact stage
      · exact loaded.held part within

theorem calls_step {turn : Turn} {rendering : Rendering}
    (called : (rt.step samples turn).calls = rt.calls ++ [rendering]) :
    ∃ state flow, rt.stage = .applying state flow ∧ rendering = .of state := by
  have silent : rt.calls ≠ rt.calls ++ [rendering] := by simp
  cases turn with
  | sampler | send request | leave => exact absurd called silent
  | dispatcher =>
    have dispatches := dispatches_act rt
    change rt.act.calls = _ at called
    generalize rt.act = rt' at dispatches called
    cases dispatches with
    | start | refresh | receive | sleep | close | drain | begin | finish | render | override | load
    | rest => exact absurd called silent
    | @shutdown due => cases due <;> exact absurd called silent
    | @apply state flow stage =>
      refine ⟨state, flow, stage, ?_⟩
      cases flow <;>
        exact (List.singleton_inj.mp (List.append_cancel_left called)).symm

/-- Every call of the sink draws what the dispatcher loaded at some earlier moment, and this has
the mode of the last settled state up to then if, and only if, the slot had gone directly from
pending to pending an even number of times since that state. -/
theorem mode_of_call (settings : Settings) (now : Nat) (samples : Nat → Sample)
    (queue : List Request) (senders : Nat) (sink : σ) (source : γ) (output : Option String)
    (start : Runtime σ γ) (starts : start = boot settings now {} queue senders sink source output)
    (turns : List Turn) (turn : Turn) (rendering : Rendering)
    (called : (start.run samples (turns ++ [turn])).calls =
      (start.run samples turns).calls ++ [rendering]) :
    ∃ before between flow settled,
      Loaded samples start rendering.state flow turns before between ∧
      lastSettled (start.past samples [] before) = some settled ∧
      (rendering.shown = settled.shown ↔ Even (turnings (start.past samples [] before))) := by
  subst starts
  rw [run_append] at called
  obtain ⟨state, flow, applying, rfl⟩ := calls_step called
  obtain ⟨before, between, loaded⟩ := loaded_of_applying rfl applying
  have sound (part : List Turn) : Race.Sound settings samples
      ((boot settings now {} queue senders sink source output).run samples part).race :=
    Reached.sound ⟨now, {}, queue, senders, source, output, part, rfl⟩
  obtain ⟨held, settled, head, last, mode⟩ :=
    balanced_past before (fun part _ => sound part) rfl
  obtain ⟨rest, past⟩ := past_eq_cons samples
    (boot settings now {} queue senders sink source output) [] before
  rw [past, loaded.slot] at head
  obtain rfl := Option.some.inj head
  exact ⟨before, between, flow, settled, loaded, last, mode⟩

theorem mode_of_call_goingDown :
    ((quiet {}).run Race.visit (goingDown.dropLast ++ [.dispatcher])).calls =
        ((quiet {}).run Race.visit goingDown.dropLast).calls ++ [⟨false, .hidden⟩] ∧
      ∃ before between flow settled,
        Loaded Race.visit (quiet {}) .hidden flow goingDown.dropLast before between ∧
        lastSettled ((quiet {}).past Race.visit [] before) = some settled ∧
        (false = settled.shown ↔ Even (turnings ((quiet {}).past Race.visit [] before))) := by
  have called : ((quiet {}).run Race.visit (goingDown.dropLast ++ [.dispatcher])).calls =
      ((quiet {}).run Race.visit goingDown.dropLast).calls ++ [⟨false, .hidden⟩] := by decide
  exact ⟨called, mode_of_call {} 0 Race.visit [] 1 {} _ none (quiet {}) rfl goingDown.dropLast
    .dispatcher ⟨false, .hidden⟩ called⟩

/-- Hides at once and takes an hour to show. -/
def reluctant : Settings := { delayShow := 3600000, delayHide := 0, checkInterval := 1 }

/-- The pointer goes down, comes up for two samples and goes down again. -/
def peek (n : Nat) : Sample :=
  ⟨n * milliseconds 10, some ⟨10, if n = 2 ∨ n = 3 then 0 else 80⟩⟩

/-- The dispatcher draws for the first time, five ticks go by, and it comes to the next load. -/
def peeking : List Turn :=
  List.replicate 3 .dispatcher ++ List.replicate 26 .sampler ++ List.replicate 4 .dispatcher

/-- The panel is hidden, and then drawn as shown although nothing has settled or overridden. -/
theorem mode_lost_by_turning :
    ((quiet reluctant).run peek peeking).stage = .loading .proceed ∧
    lastSettled ((quiet reluctant).past peek [] peeking) = some .hidden ∧
    turnings ((quiet reluctant).past peek [] peeking) = 1 ∧
    ((quiet reluctant).run peek (peeking ++ [.dispatcher, .dispatcher])).calls =
      ((quiet reluctant).run peek (peeking ++ [.dispatcher])).calls ++ [⟨true, .pendingHidden⟩] ∧
    true ≠ Visibility.hidden.shown := by decide

end Runtime

end EdgeReveal
