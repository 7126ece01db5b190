import EdgeReveal.Compositor.Client
import EdgeReveal.Proofs.Dispatch.Batches
import Mathlib.Logic.Function.Iterate

/-!
# The output that is followed

A dispatcher looks its output up when it starts and whenever outputs come or go. Without a
configured name it takes what is in front and stays with it: from the first lookup that finds
something, the name is fixed. A lookup with a fixed name depends on the first enabled monitor of
that name alone, and the cache holds what the latest lookup has found.
-/
namespace EdgeReveal

/-- What one query of the monitors brings; a query that fails brings nothing. -/
abbrev Listing := Option (List Monitor)

namespace Monitor

/-- The first enabled monitor of that name. -/
def named? (name : String) (monitors : List Monitor) : Option Monitor :=
  monitors.find? fun m => !m.disabled && m.name == name

/-- The first monitor that is enabled and focused, or else the first enabled one. -/
def foremost? (monitors : List Monitor) : Option Monitor :=
  (monitors.find? fun m => !m.disabled && m.focused).or (monitors.find? fun m => !m.disabled)

theorem select_some (monitors : List Monitor) (name : String) :
    select monitors (some name) = named? name monitors := by
  simp only [select, named?, List.find?_filter]
  congr 1
  funext m
  rw [Bool.eq_iff_iff]
  simp

theorem select_none (monitors : List Monitor) : select monitors none = foremost? monitors := by
  have focused : (monitors.filter (!·.disabled)).find? (·.focused) =
      monitors.find? fun m => !m.disabled && m.focused := by
    rw [List.find?_filter]
    congr 1
    funext m
    rw [Bool.eq_iff_iff]
    simp
  simp only [select, foremost?, focused, List.head?_filter]

/-- Something is in front unless every monitor is disabled. -/
theorem foremost?_eq_none {monitors : List Monitor} :
    foremost? monitors = none ↔ ∀ m ∈ monitors, m.disabled = true := by
  rw [foremost?, Option.or_eq_none_iff, List.find?_eq_none, List.find?_eq_none]
  constructor
  · rintro ⟨-, disabled⟩ m within
    simpa using disabled m within
  · intro disabled
    constructor
    · intro m within
      simp [disabled m within]
    · intro m within
      simp [disabled m within]

end Monitor

/-- What a lookup of `output` finds in a listing. -/
def Listing.locate (listing : Listing) (output : Option String) : Option Geometry :=
  listing.bind fun monitors => (Monitor.select monitors output).map Monitor.geometry

namespace Listing

theorem locate_some (listing : Listing) (name : String) :
    listing.locate (some name) = (listing.bind (Monitor.named? name)).map Monitor.geometry := by
  cases listing with
  | none => rfl
  | some monitors => simp only [locate, Option.bind_some, Monitor.select_some]

theorem locate_none (listing : Listing) :
    listing.locate none = (listing.bind Monitor.foremost?).map Monitor.geometry := by
  cases listing with
  | none => rfl
  | some monitors => simp only [locate, Option.bind_some, Monitor.select_none]

/-- What is found is an output that is there, so the cache will give it out again. -/
theorem valid_of_locate {listing : Listing} {output : Option String} {geometry : Geometry}
    (found : listing.locate output = some geometry) : geometry.valid = true := by
  obtain ⟨monitors, -, chosen⟩ := Option.bind_eq_some_iff.mp found
  obtain ⟨m, -, rfl⟩ := Option.map_eq_some_iff.mp chosen
  rfl

end Listing

/-! ### Sources of listings -/

section Yields

variable {γ : Type} [GeometrySource γ]

/-- The source after it has been asked for these outputs, one after the other. -/
def askedFor (source : γ) (outputs : List (Option String)) : γ :=
  outputs.foldl (fun source output => (GeometrySource.query source output).2) source

/-- Query number `n` is answered from listing number `n`, whatever has been asked before. -/
def Yields (source : γ) (listings : Nat → Listing) : Prop :=
  ∀ outputs output, (GeometrySource.query (askedFor source outputs) output).1 =
    (listings outputs.length).locate output

theorem Yields.first {source : γ} {listings : Nat → Listing} (yields : Yields source listings)
    (output : Option String) :
    (GeometrySource.query source output).1 = (listings 0).locate output := yields [] output

theorem Yields.later {source : γ} {listings : Nat → Listing} (yields : Yields source listings)
    (output : Option String) :
    Yields (GeometrySource.query source output).2 fun n => listings (n + 1) :=
  fun outputs => yields (output :: outputs)

end Yields

/-- The listings that the compositor's replies amount to. -/
def ReplySequence.listing (replies : ReplySequence) (n : Nat) : Listing :=
  replies.endpoints[n]?.bind fun endpoint =>
    (Client.monitors ⟨replies.path, endpoint⟩).toOption

theorem Client.outputGeometry_eq (client : Client) (output : Option String) :
    client.outputGeometry output = Listing.locate client.monitors.toOption output := by
  unfold outputGeometry Listing.locate
  cases client.monitors <;> rfl

theorem ReplySequence.askedFor_eq (replies : ReplySequence) (outputs : List (Option String)) :
    askedFor replies outputs =
      { replies with endpoints := replies.endpoints.drop outputs.length } := by
  induction outputs generalizing replies with
  | nil => rfl
  | cons output outputs ih =>
    obtain ⟨path, endpoints⟩ := replies
    cases endpoints with
    | nil => exact (ih ⟨path, []⟩).trans (by simp)
    | cons endpoint rest => exact ih ⟨path, rest⟩

/-- The compositor answers every query anew, from the monitors that there are by then. -/
theorem ReplySequence.yields (replies : ReplySequence) : Yields replies replies.listing := by
  intro outputs output
  obtain ⟨path, endpoints⟩ := replies
  rw [askedFor_eq, listing]
  dsimp only
  rw [← List.head?_drop]
  cases endpoints.drop outputs.length with
  | nil => rfl
  | cons endpoint rest => exact Client.outputGeometry_eq _ _

namespace Dispatcher

variable {σ γ : Type}

/-! ### One lookup -/

section Refresh

variable [GeometrySource γ] {d : Dispatcher σ γ} {listings : Nat → Listing}

theorem source_refresh (d : Dispatcher σ γ) :
    d.refresh.source = (GeometrySource.query d.source d.output).2 := by
  unfold refresh
  split
  next query => rw [query]
  next query => rw [query]

theorem output_refresh (yields : Yields d.source listings) :
    d.refresh.output = d.output.or (((listings 0).locate d.output).map Geometry.label) := by
  rw [← yields.first]
  unfold refresh
  split
  next query =>
    rw [query]
    cases d.output <;> rfl
  next query =>
    rw [query]
    cases d.output <;> rfl

theorem read_refresh (yields : Yields d.source listings) :
    d.refresh.shared.geometry.read = (listings 0).locate d.output := by
  have asked := yields.first d.output
  unfold refresh
  split
  next geometry source query =>
    rw [query] at asked
    have valid := Listing.valid_of_locate asked.symm
    rw [← asked]
    simp [Shared.writeGeometry, valid]
  next source query =>
    rw [query] at asked
    exact asked

theorem yields_refreshes (yields : Yields d.source listings) (n : Nat) :
    Yields (refresh^[n] d).source fun k => listings (k + n) := by
  induction n with
  | zero => exact yields
  | succ n ih =>
    rw [Function.iterate_succ_apply', source_refresh]
    have later := ih.later (refresh^[n] d).output
    simpa only [Nat.add_assoc, Nat.add_comm 1 n] using later

/-- Lookup number `n`, and what it leaves behind. -/
theorem lookup_refreshes (yields : Yields d.source listings) (n : Nat) :
    (refresh^[n + 1] d).output = (refresh^[n] d).output.or
        (((listings n).locate (refresh^[n] d).output).map Geometry.label) ∧
      (refresh^[n + 1] d).shared.geometry.read =
        (listings n).locate (refresh^[n] d).output := by
  have here := yields_refreshes yields n
  rw [Function.iterate_succ_apply']
  refine ⟨(output_refresh here).trans ?_, (read_refresh here).trans ?_⟩
  · rw [Nat.zero_add]
  · rw [Nat.zero_add]

/-- A name that is fixed stays. -/
theorem output_refreshes (yields : Yields d.source listings) {name : String} {n later : Nat}
    (fixed : (refresh^[n] d).output = some name) (after : n ≤ later) :
    (refresh^[later] d).output = some name := by
  induction later, after using Nat.le_induction with
  | base => exact fixed
  | succ later after ih =>
    rw [(lookup_refreshes yields later).1, ih]
    rfl

end Refresh

/-! ### Lookups among the other requests -/

/-- Two dispatchers that follow the same output and know the same of it. -/
structure SameFollowed (d e : Dispatcher σ γ) : Prop where
  output : d.output = e.output
  geometry : d.shared.geometry = e.shared.geometry
  source : d.source = e.source

/-- How often the requests, and the start before them, have the output looked up. -/
def lookups (requests : List Request) : Nat := (heeded requests).count .outputsChanged + 1

variable [GeometrySource γ]

theorem SameFollowed.refresh {d e : Dispatcher σ γ} (same : SameFollowed d e) :
    SameFollowed d.refresh e.refresh := by
  unfold Dispatcher.refresh
  rw [same.source, same.output]
  split
  · exact ⟨rfl, rfl, rfl⟩
  · refine ⟨rfl, ?_, rfl⟩
    simp only [Shared.invalidateGeometry, same.geometry]

/-- Of all requests only a change of the outputs concerns the followed one. -/
theorem sameFollowed_heeds {d e : Dispatcher σ γ} (same : SameFollowed d e)
    (requests : List Request) :
    SameFollowed (requests.foldl heed d)
      (Dispatcher.refresh^[requests.count .outputsChanged] e) := by
  induction requests generalizing d e with
  | nil => exact same
  | cons request rest ih =>
    rw [List.foldl_cons]
    cases request with
    | outputsChanged =>
      rw [List.count_cons_self, Function.iterate_succ_apply]
      exact ih same.refresh
    | render | shutdown =>
      rw [List.count_cons_of_ne (by simp)]
      exact ih same
    | override event =>
      rw [List.count_cons_of_ne (by simp)]
      exact ih ⟨same.output, same.geometry, same.source⟩

/-- Serving batch after batch changes what the requests before a shutdown change, and draws. -/
theorem serve_withSink [Sink σ] (d : Dispatcher σ γ) (batches : List (List Request)) :
    ∃ sink, (d.serve batches).2 = ((heeded batches.flatten).foldl heed d).withSink sink := by
  induction batches generalizing d with
  | nil => exact ⟨d.sink, rfl⟩
  | cons batch rest ih =>
    obtain ⟨sink, first⟩ := handle_withSink d batch
    rw [List.flatten_cons]
    by_cases present : .shutdown ∈ batch
    · rw [serve_cons_of_mem d present, heeded_append_of_mem present]
      exact ⟨sink, first⟩
    · obtain ⟨last, served⟩ := ih (d.handle batch).2
      rw [heeded_of_not_mem present] at first
      rw [serve_cons_of_not_mem d present, heeded_append_of_not_mem present, List.foldl_append,
        served, first, heeds_withSink]
      exact ⟨last, rfl⟩

/-- For the followed output, a run is its lookups. -/
theorem sameFollowed_run [Sink σ] (d : Dispatcher σ γ) (batches : List (List Request)) :
    SameFollowed (d.run batches).2 (Dispatcher.refresh^[lookups batches.flatten] d) := by
  obtain ⟨sink, served⟩ := serve_withSink d.refresh.render batches
  have begun : SameFollowed d.refresh.render d.refresh := ⟨rfl, rfl, rfl⟩
  have followed := sameFollowed_heeds begun (heeded batches.flatten)
  rw [run, served, lookups, Function.iterate_succ_apply]
  exact ⟨followed.output, followed.geometry, followed.source⟩

/-- The compositor's replies yield listings, and whatever a source lists: once a name is fixed it
stays, and each later lookup leaves the first enabled monitor of that name in the cache, or none
if there is none. Until then a lookup takes the monitor in front and fixes its name, unless the
query fails or all monitors are disabled. -/
theorem output_followed :
    (∀ replies : ReplySequence, Yields replies replies.listing) ∧
    ∀ {σ γ : Type} [Sink σ] [GeometrySource γ] (d : Dispatcher σ γ) (listings : Nat → Listing),
      Yields d.source listings →
      (∀ batches, SameFollowed (d.run batches).2
        (Dispatcher.refresh^[lookups batches.flatten] d)) ∧
      ∀ n,
        (∀ name, (Dispatcher.refresh^[n] d).output = some name → ∀ later, n ≤ later →
          (Dispatcher.refresh^[later] d).output = some name ∧
          (Dispatcher.refresh^[later + 1] d).shared.geometry.read =
            ((listings later).bind (Monitor.named? name)).map Monitor.geometry) ∧
        ((Dispatcher.refresh^[n] d).output = none →
          (Dispatcher.refresh^[n + 1] d).output =
            ((listings n).bind Monitor.foremost?).map Monitor.name ∧
          (Dispatcher.refresh^[n + 1] d).shared.geometry.read =
            ((listings n).bind Monitor.foremost?).map Monitor.geometry ∧
          ((Dispatcher.refresh^[n + 1] d).output = none ↔
            ∀ monitors, listings n = some monitors → ∀ m ∈ monitors, m.disabled = true)) := by
  refine ⟨ReplySequence.yields, fun d listings yields => ⟨sameFollowed_run d, fun n => ⟨?_, ?_⟩⟩⟩
  · intro name fixed later after
    have kept := output_refreshes yields fixed after
    refine ⟨kept, ?_⟩
    rw [(lookup_refreshes yields later).2, kept, Listing.locate_some]
  · intro unfixed
    obtain ⟨output, read⟩ := lookup_refreshes yields n
    rw [unfixed, Listing.locate_none] at output read
    have named : (Dispatcher.refresh^[n + 1] d).output =
        ((listings n).bind Monitor.foremost?).map Monitor.name := by
      rw [output, Option.none_or, Option.map_map]
      rfl
    refine ⟨named, read, ?_⟩
    rw [named, Option.map_eq_none_iff, Option.bind_eq_none_iff]
    exact forall₂_congr fun monitors _ => Monitor.foremost?_eq_none

end Dispatcher

/-! ### An output that goes and comes back -/

/-- A source that has any listings whatever. -/
structure Script where
  listings : Nat → Listing
  asked : Nat := 0

instance : GeometrySource Script where
  query script output :=
    ((script.listings script.asked).locate output, { script with asked := script.asked + 1 })

theorem Script.askedFor_eq (script : Script) (outputs : List (Option String)) :
    askedFor script outputs = { script with asked := script.asked + outputs.length } := by
  induction outputs generalizing script with
  | nil => rfl
  | cons output outputs ih =>
    refine (ih { script with asked := script.asked + 1 }).trans ?_
    rw [List.length_cons, Nat.add_assoc, Nat.add_comm 1]

theorem Script.yields (listings : Nat → Listing) : Yields (Script.mk listings 0) listings := by
  intro outputs output
  rw [askedFor_eq]
  change (listings (0 + outputs.length)).locate output = _
  rw [Nat.zero_add]

/-- The laptop's own screen, perhaps focused. -/
def ownScreen (focused : Bool) : Monitor :=
  { name := "eDP-1", x := 0, y := 0, width := 1920, height := 1080, focused := focused }

def projector (focused disabled : Bool) : Monitor :=
  { name := "HDMI-A-1", x := 1920, y := 0, width := 1280, height := 720, focused := focused,
    disabled := disabled }

/-- At first nothing is known; then the projector has the focus; it is disabled, and comes back
behind the laptop's own screen. -/
def lecture : Nat → Listing
  | 0 => none
  | 1 => some [ownScreen false, projector true false]
  | 2 => some [ownScreen true, projector false true]
  | _ => some [ownScreen true, projector false false]

theorem output_followed_lecture :
    let d : Dispatcher Recorder Script := { sink := {}, source := ⟨lecture, 0⟩ }
    Yields d.source lecture ∧
    (Dispatcher.refresh^[1] d).output = none ∧
    (Dispatcher.refresh^[2] d).output = some "HDMI-A-1" ∧
    (Dispatcher.refresh^[3] d).shared.geometry.read = none ∧
    (Dispatcher.refresh^[4] d).output = some "HDMI-A-1" ∧
    (Dispatcher.refresh^[4] d).shared.geometry.read =
      some (projector false false).geometry := by
  intro d
  have yields : Yields d.source lecture := Script.yields lecture
  obtain ⟨-, history⟩ := Dispatcher.output_followed.2 d lecture yields
  have first := (history 0).2 rfl
  have second := (history 1).2 (first.1.trans rfl)
  have fixed := (history 2).1 "HDMI-A-1" (second.1.trans rfl)
  exact ⟨yields, first.1.trans rfl, second.1.trans rfl, (fixed 2 (by decide)).2.trans rfl,
    (fixed 4 (by decide)).1, (fixed 3 (by decide)).2.trans rfl⟩

end EdgeReveal
