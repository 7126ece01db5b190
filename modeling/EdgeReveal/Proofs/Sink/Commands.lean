import EdgeReveal.Sink.Fanout
import Mathlib

/-!
# Commands follow the flips

Which commands a launcher tries to start depends on the modes it is called with and on nothing
else: one for each call that is the first or has another mode than the call before. What the system
makes of a command changes the children and nothing that is launched later.
-/
namespace EdgeReveal

/-- The modes of the calls that have another mode than the call before, which for the first of them
is `last`. -/
def flipsFrom (last : Option Bool) (modes : List Bool) : List Bool :=
  (((last :: modes.map some).zip modes).filter fun (before, mode) => before != some mode).map (·.2)

/-- The modes of the calls that are the first or have another mode than the call before. -/
def flips (modes : List Bool) : List Bool := flipsFrom none modes

section Flips

@[simp] theorem flipsFrom_nil (last : Option Bool) : flipsFrom last [] = [] := rfl

theorem flipsFrom_cons (last : Option Bool) (mode : Bool) (modes : List Bool) :
    flipsFrom last (mode :: modes) =
      (if last = some mode then [] else [mode]) ++ flipsFrom (some mode) modes := by
  unfold flipsFrom
  rw [List.map_cons, List.zip_cons_cons, List.filter_cons]
  by_cases same : last = some mode <;> simp [same]

/-- The call before the first of the rest has the mode that was kept last, so keeping the flips is
keeping what differs from the one kept before it. -/
theorem cons_flipsFrom (mode : Bool) (modes : List Bool) :
    mode :: flipsFrom (some mode) modes = modes.destutter' (· ≠ ·) mode := by
  induction modes generalizing mode with
  | nil => rfl
  | cons next modes ih =>
    rw [flipsFrom_cons, List.destutter'_cons]
    by_cases same : mode = next
    · subst same
      simpa using ih mode
    · simpa [same] using ih next

theorem flips_eq_destutter (modes : List Bool) : flips modes = modes.destutter (· ≠ ·) := by
  cases modes with
  | nil => rfl
  | cons mode modes =>
    rw [flips, flipsFrom_cons, List.destutter_cons', ← cons_flipsFrom]
    simp

theorem isChain_flips (modes : List Bool) : (flips modes).IsChain (· ≠ ·) := by
  rw [flips_eq_destutter]
  exact List.isChain_destutter _ modes

end Flips

namespace Launcher

/-- The commands for modes, none for a mode that no command is configured for. -/
def commandsFor (onShow onHide : Option String) (modes : List Bool) : List String :=
  modes.flatMap fun mode => (if mode then onShow else onHide).toList

theorem commandsFor_append (onShow onHide : Option String) (modes more : List Bool) :
    commandsFor onShow onHide (modes ++ more) =
      commandsFor onShow onHide modes ++ commandsFor onShow onHide more := List.flatMap_append

theorem commandsFor_none (modes : List Bool) : commandsFor none none modes = [] := by
  simp [commandsFor]

theorem commandsFor_both (appear vanish : String) (modes : List Bool) :
    commandsFor (some appear) (some vanish) modes =
      modes.map fun mode => if mode then appear else vanish := by
  rw [List.map_eq_flatMap, commandsFor]
  refine congrArg (List.flatMap · modes) (funext fun mode => ?_)
  cases mode <;> rfl

theorem commandsFor_singleton (l : Launcher) (mode : Bool) :
    commandsFor l.onShow l.onHide [mode] = (l.commandFor mode).toList := List.append_nil _

/-! ### One call -/

/-- A call with the mode of the call before only asks about the children; any other one also
remembers the mode and launches what is configured for it. -/
theorem apply_cases (l : Launcher) (mode : Bool) :
    (l.last = some mode ∧ l.apply mode = l.reap) ∨
    (l.last ≠ some mode ∧ l.commandFor mode = none ∧
      l.apply mode = { l.reap with last := some mode }) ∨
    ∃ command, l.last ≠ some mode ∧ l.commandFor mode = some command ∧
      l.apply mode = { l.reap with last := some mode }.launch command := by
  by_cases same : l.last = some mode
  · exact .inl ⟨same, if_pos same⟩
  · have flips : l.apply mode = _ := if_neg same
    -- reaping and remembering leave the commands as they are configured
    have commands : { l.reap with last := some mode }.commandFor mode = l.commandFor mode := rfl
    rw [flips, commands]
    cases chosen : l.commandFor mode with
    | none => exact .inr (.inl ⟨same, rfl, rfl⟩)
    | some command => exact .inr (.inr ⟨command, same, rfl, rfl⟩)

theorem last_apply (l : Launcher) (mode : Bool) : (l.apply mode).last = some mode := by
  obtain ⟨same, next⟩ | ⟨-, -, next⟩ | ⟨command, -, -, next⟩ := l.apply_cases mode
  · rw [next]
    exact same
  · rw [next]
  · rw [next]
    rfl

theorem configured_apply (l : Launcher) (mode : Bool) :
    (l.apply mode).onShow = l.onShow ∧ (l.apply mode).onHide = l.onHide := by
  obtain ⟨-, next⟩ | ⟨-, -, next⟩ | ⟨command, -, -, next⟩ := l.apply_cases mode <;>
    rw [next] <;> exact ⟨rfl, rfl⟩

theorem launched_apply (l : Launcher) (mode : Bool) : (l.apply mode).launched = l.launched ++
    commandsFor l.onShow l.onHide (if l.last = some mode then [] else [mode]) := by
  obtain ⟨same, next⟩ | ⟨other, absent, next⟩ | ⟨command, other, chosen, next⟩ :=
    l.apply_cases mode
  · rw [next, if_pos same]
    exact (List.append_nil _).symm
  · rw [next, if_neg other, commandsFor_singleton, absent]
    exact (List.append_nil _).symm
  · rw [next, if_neg other, commandsFor_singleton, chosen]
    rfl

/-! ### A run of calls -/

theorem launched_calls (l : Launcher) (calls : List Rendering) :
    (calls.foldl Sink.apply l).launched = l.launched ++
      commandsFor l.onShow l.onHide (flipsFrom l.last (calls.map Rendering.shown)) := by
  induction calls generalizing l with
  | nil => exact (List.append_nil _).symm
  | cons call calls ih =>
    -- the launcher after the call has the same commands and remembers the mode of the call
    obtain ⟨onShow, onHide⟩ := configured_apply l call.shown
    have later := ih (l.apply call.shown)
    rw [onShow, onHide, last_apply, launched_apply, List.append_assoc, ← commandsFor_append]
      at later
    rw [List.foldl_cons, List.map_cons, flipsFrom_cons]
    exact later

end Launcher

namespace Fanout

/-- The commands that a sink has tried to start. -/
def launchedBy : AnySink → List String
  | .launcher sink => sink.launched
  | .recorder _ | .jsonLines _ => []

def launched (fanout : Fanout) : List String := fanout.sinks.flatMap launchedBy

theorem calls_sinks (fanout : Fanout) (calls : List Rendering) :
    (calls.foldl Sink.apply fanout).sinks =
      fanout.sinks.map fun sink => calls.foldl Sink.apply sink := by
  induction calls generalizing fanout with
  | nil => simp
  | cons call calls ih =>
    rw [List.foldl_cons, ih]
    simp [Sink.apply]

/-- A sink among others is called as it would be on its own. -/
theorem calls_wrapped {σ : Type} [Sink σ] (wrap : σ → AnySink)
    (alike : ∀ sink rendering, Sink.apply (wrap sink) rendering = wrap (Sink.apply sink rendering))
    (sink : σ) (calls : List Rendering) :
    calls.foldl Sink.apply (wrap sink) = wrap (calls.foldl Sink.apply sink) := by
  induction calls generalizing sink with
  | nil => rfl
  | cons call calls ih => rw [List.foldl_cons, alike, ih, List.foldl_cons]

theorem launched_calls (fanout : Fanout) (calls : List Rendering) :
    (calls.foldl Sink.apply fanout).launched =
      fanout.sinks.flatMap fun sink => launchedBy (calls.foldl Sink.apply sink) := by
  rw [launched, calls_sinks, List.flatMap_map]

/-- The sinks of the settings hold a launcher unless there is nothing to launch. -/
theorem launched_ofSettings (settings : PanelSettings) (outlet : Outlet) (processes : Processes)
    (calls : List Rendering) :
    (calls.foldl Sink.apply (ofSettings settings outlet processes)).launched =
      Launcher.commandsFor settings.onShow settings.onHide
        (flips (calls.map Rendering.shown)) := by
  have lines : launchedBy (calls.foldl Sink.apply (AnySink.jsonLines ⟨outlet⟩)) = [] := by
    rw [calls_wrapped .jsonLines (fun _ _ => rfl)]
    rfl
  have commands (sink : Launcher) : launchedBy (calls.foldl Sink.apply (AnySink.launcher sink)) =
      (calls.foldl Sink.apply sink).launched := by
    rw [calls_wrapped .launcher (fun _ _ => rfl)]
    rfl
  have silent : (if settings.emitJson then [AnySink.jsonLines ⟨outlet⟩] else []).flatMap
      (fun sink => launchedBy (calls.foldl Sink.apply sink)) = [] := by
    split
    · rw [List.flatMap_singleton, lines]
    · rfl
  -- only the launcher launches, and it is there if one of the two commands is configured
  rw [launched_calls, ofSettings, List.flatMap_append, silent, List.nil_append]
  split
  next =>
    rw [List.flatMap_singleton, commands, Launcher.launched_calls]
    rfl
  next unconfigured =>
    simp only [Bool.or_eq_true, not_or, Option.not_isSome_iff_eq_none] at unconfigured
    rw [unconfigured.1, unconfigured.2, Launcher.commandsFor_none]
    rfl

end Fanout

namespace Launcher

/-- The commands that a launcher tries to start are those for the flips among its calls, whatever
states it is told, whichever commands can be started and whenever they end. So show and hide
commands take turns if both are configured. The launcher among the sinks of the settings tries to
start the same commands; without it there are none to start. -/
theorem launches_follow_flips (onShow onHide : Option String) (processes : Processes)
    (calls : List Rendering) :
    let sink : Launcher := { onShow := onShow, onHide := onHide, processes := processes }
    let launched := (calls.foldl Sink.apply sink).launched
    launched = commandsFor onShow onHide (flips (calls.map Rendering.shown)) ∧
    (∀ appear vanish, onShow = some appear → onHide = some vanish →
      ∃ modes : List Bool, modes.IsChain (· ≠ ·) ∧
        launched = modes.map fun mode => if mode then appear else vanish) ∧
    ∀ settings outlet, settings.onShow = onShow → settings.onHide = onHide →
      (calls.foldl Sink.apply (Fanout.ofSettings settings outlet processes)).launched =
        launched := by
  intro sink launched
  have alone : launched = commandsFor onShow onHide (flips (calls.map Rendering.shown)) :=
    sink.launched_calls calls
  refine ⟨alone, fun appear vanish shows hides => ?_, fun settings outlet shows hides => ?_⟩
  · refine ⟨_, isChain_flips (calls.map Rendering.shown), ?_⟩
    rw [alone, shows, hides, commandsFor_both]
  · rw [Fanout.launched_ofSettings, shows, hides]
    exact alone.symm

/-- The first command does not start, the second is asked about twice and then given up, and two of
the calls only change the state. -/
theorem launches_follow_flips_unstarted :
    let processes : Processes :=
      { starts := fun n => n != 0, answers := fun n => if n = 0 then .running else .failed }
    let calls : List Rendering :=
      [⟨false, .hidden⟩, ⟨false, .pendingVisible⟩, ⟨true, .visible⟩, ⟨true, .pendingHidden⟩,
        ⟨false, .hidden⟩]
    let sink : Launcher := { onShow := some "up", onHide := some "down", processes := processes }
    (calls.foldl Sink.apply sink).launched = ["down", "up", "down"] ∧
    (calls.foldl Sink.apply sink).children = ["down"] ∧
    (calls.foldl Sink.apply
      (Fanout.ofSettings { onShow := some "up", onHide := some "down" } {} processes)).launched =
        ["down", "up", "down"] ∧
    ∃ modes : List Bool, modes.IsChain (· ≠ ·) ∧
      ["down", "up", "down"] = modes.map fun mode => if mode then "up" else "down" := by
  intro processes calls sink
  obtain ⟨commands, turns, among⟩ := launches_follow_flips (some "up") (some "down") processes calls
  have launched : (calls.foldl Sink.apply sink).launched = ["down", "up", "down"] :=
    commands.trans (by decide)
  refine ⟨launched, by decide, ?_, ?_⟩
  · exact (among { onShow := some "up", onHide := some "down" } {} rfl rfl).trans launched
  · exact launched ▸ turns "up" "down" rfl rfl

end Launcher

end EdgeReveal
