import EdgeReveal.Dispatcher
import Mathlib.Data.List.TakeWhile

/-!
# Batches of requests

The dispatcher handles together what is queued together and renders once for
it. What it ends with depends on the requests before the first shutdown alone,
not on where they are cut into batches: a request changes the slot, the cache
and the source in the same way whatever has been drawn, and the one rendering
of a batch reads the slot after the last request that could have changed it.
-/
namespace EdgeReveal

/-- Whether handling the request ends in a rendering. -/
def Request.draws : Request → Bool
  | .render | .override _ => true
  | .outputsChanged | .shutdown => false

/-- A source that notes which outputs it is asked for, oldest first. -/
structure Inquiry (γ : Type) where
  source : γ
  asked : List (Option String) := []

instance {γ : Type} [GeometrySource γ] : GeometrySource (Inquiry γ) where
  query inquiry output :=
    let (found, source) := GeometrySource.query inquiry.source output
    (found, { source := source, asked := inquiry.asked ++ [output] })

namespace Dispatcher

/-! ### The requests before a shutdown -/

/-- The requests that count: those before the first shutdown. -/
def heeded (requests : List Request) : List Request :=
  requests.takeWhile (· ≠ .shutdown)

/-- Whether a list of requests ends the loop. -/
def flowOf (requests : List Request) : Flow :=
  if .shutdown ∈ requests then .stop else .proceed

@[simp] theorem heeded_nil : heeded [] = [] := rfl

@[simp] theorem heeded_shutdown (rest : List Request) : heeded (.shutdown :: rest) = [] := rfl

@[simp] theorem heeded_cons {request : Request} (rest : List Request)
    (other : request ≠ .shutdown) : heeded (request :: rest) = request :: heeded rest :=
  List.takeWhile_cons_of_pos (by simpa using other)

theorem heeded_heeded (requests : List Request) : heeded (heeded requests) = heeded requests :=
  List.takeWhile_idem

theorem heeded_append_of_not_mem {front : List Request} (absent : .shutdown ∉ front)
    (back : List Request) : heeded (front ++ back) = front ++ heeded back := by
  refine List.takeWhile_append_of_pos fun request within => ?_
  have other : request ≠ .shutdown := fun same => absent (same ▸ within)
  exact decide_eq_true other

theorem heeded_of_not_mem {requests : List Request} (absent : .shutdown ∉ requests) :
    heeded requests = requests := by
  simpa using heeded_append_of_not_mem absent []

/-- What stands behind a shutdown does not count. -/
theorem heeded_append_of_mem {front : List Request} (present : .shutdown ∈ front)
    (back : List Request) : heeded (front ++ back) = heeded front := by
  induction front with
  | nil => cases present
  | cons first front ih =>
    -- either the first request is the shutdown, or the shutdown comes later
    by_cases same : first = .shutdown
    · rw [same]
      rfl
    · have later : .shutdown ∈ front := (List.mem_cons.mp present).resolve_left (Ne.symm same)
      rw [List.cons_append, heeded_cons _ same, heeded_cons _ same, ih later]

theorem flowOf_append_of_mem {front : List Request} (present : .shutdown ∈ front)
    (back : List Request) : flowOf (front ++ back) = .stop :=
  if_pos (List.mem_append_left _ present)

theorem flowOf_append_of_not_mem {front : List Request} (absent : .shutdown ∉ front)
    (back : List Request) : flowOf (front ++ back) = flowOf back := by
  simp [flowOf, absent]

theorem flowOf_eq_stop {requests : List Request} :
    flowOf requests = .stop ↔ .shutdown ∈ requests := by
  unfold flowOf
  split <;> simp [*]

theorem flowOf_eq_proceed {requests : List Request} :
    flowOf requests = .proceed ↔ .shutdown ∉ requests := by
  unfold flowOf
  split <;> simp [*]

variable {σ γ : Type}

/-! ### What two ways of handling requests have in common -/

/-- Everything but the renderings before the last one. -/
structure Alike (d e : Dispatcher Recorder γ) : Prop where
  shared : d.shared = e.shared
  output : d.output = e.output
  source : d.source = e.source
  last : d.sink.calls.getLast? = e.sink.calls.getLast?

theorem Alike.refl (d : Dispatcher Recorder γ) : Alike d d := ⟨rfl, rfl, rfl, rfl⟩

theorem Alike.symm {d e : Dispatcher Recorder γ} (alike : Alike d e) : Alike e d :=
  ⟨alike.shared.symm, alike.output.symm, alike.source.symm, alike.last.symm⟩

theorem Alike.trans {d e f : Dispatcher Recorder γ} (first : Alike d e) (second : Alike e f) :
    Alike d f :=
  ⟨first.shared.trans second.shared, first.output.trans second.output,
    first.source.trans second.source, first.last.trans second.last⟩

/-! ### What a request changes -/

/-- The dispatcher with another sink. -/
def withSink (d : Dispatcher σ γ) (sink : σ) : Dispatcher σ γ := { d with sink := sink }

@[simp] theorem sink_withSink (d : Dispatcher σ γ) (sink : σ) :
    (d.withSink sink).sink = sink := rfl

@[simp] theorem shared_withSink (d : Dispatcher σ γ) (sink : σ) :
    (d.withSink sink).shared = d.shared := rfl

variable [GeometrySource γ]

/-- What a request changes before anything is drawn. -/
def heed (d : Dispatcher σ γ) : Request → Dispatcher σ γ
  | .override _ => { d with shared := d.shared.store .visible }
  | .outputsChanged => d.refresh
  | .render | .shutdown => d

theorem shared_refresh (d : Dispatcher σ γ) :
    ∃ written, d.refresh.shared = { d.shared with geometry := written } := by
  unfold refresh
  split
  · exact ⟨_, rfl⟩
  · exact ⟨_, rfl⟩

theorem heed_withSink (d : Dispatcher σ γ) (sink : σ) (request : Request) :
    (d.withSink sink).heed request = (d.heed request).withSink sink := by
  cases request with
  | render | override event | shutdown => rfl
  | outputsChanged =>
    simp only [heed, refresh, withSink]
    split <;> rfl

/-- Nothing that a request changes depends on the sink. -/
theorem heeds_withSink (d : Dispatcher σ γ) (sink : σ) (requests : List Request) :
    requests.foldl heed (d.withSink sink) = (requests.foldl heed d).withSink sink := by
  induction requests generalizing d with
  | nil => rfl
  | cons request rest ih => rw [List.foldl_cons, heed_withSink, ih, List.foldl_cons]

theorem sink_heeds (d : Dispatcher σ γ) (requests : List Request) :
    (requests.foldl heed d).sink = d.sink := by
  have same : requests.foldl heed d = (requests.foldl heed d).withSink d.sink :=
    heeds_withSink d d.sink requests
  rw [same, sink_withSink]

/-- Only a request that draws can change the slot. -/
theorem slot_heeds (d : Dispatcher σ γ) {requests : List Request}
    (silent : requests.any Request.draws = false) :
    (requests.foldl heed d).shared.slot = d.shared.slot := by
  induction requests generalizing d with
  | nil => rfl
  | cons request rest ih =>
    obtain ⟨first, rest_silent⟩ := Bool.or_eq_false_iff.mp ((List.any_cons).symm.trans silent)
    rw [List.foldl_cons, ih _ rest_silent]
    cases request with
    | render | override => cases first
    | shutdown => rfl
    | outputsChanged =>
      obtain ⟨written, same⟩ := shared_refresh d
      simp only [heed, same]

/-! ### One batch -/

theorem process_eq (due : Bool) (batch : List Request) (d : Dispatcher σ γ) :
    process due batch d =
      (⟨due || (heeded batch).any Request.draws, flowOf batch⟩, (heeded batch).foldl heed d) := by
  induction batch generalizing due d with
  | nil => simp [process, flowOf]
  | cons request rest ih =>
    cases request with
    | shutdown => simp [process, flowOf]
    | render | override event | outputsChanged =>
      -- a rendering that is due stays due
      simp [process, ih, heed, flowOf, Request.draws]

theorem handle_eq [Sink σ] (d : Dispatcher σ γ) (batch : List Request) :
    d.handle batch =
      (flowOf batch,
        if (heeded batch).any Request.draws then ((heeded batch).foldl heed d).render
        else (heeded batch).foldl heed d) := by
  simp [handle, process_eq]

theorem flow_handle [Sink σ] (d : Dispatcher σ γ) (batch : List Request) :
    (d.handle batch).1 = flowOf batch :=
  congrArg Prod.fst (handle_eq d batch)

/-- Rendering changes the sink alone. -/
theorem handle_withSink [Sink σ] (d : Dispatcher σ γ) (batch : List Request) :
    ∃ sink, (d.handle batch).2 = ((heeded batch).foldl heed d).withSink sink := by
  rw [handle_eq]
  dsimp only
  split
  · exact ⟨_, rfl⟩
  · exact ⟨_, rfl⟩

/-- Of a batch only what stands before the first shutdown matters. -/
theorem handle_append_of_mem [Sink σ] (d : Dispatcher σ γ) {front : List Request}
    (present : .shutdown ∈ front) (back : List Request) :
    d.handle (front ++ back) = d.handle front := by
  rw [handle_eq, handle_eq, heeded_append_of_mem present, flowOf_append_of_mem present,
    flowOf_eq_stop.mpr present]

/-- A batch is one call of the sink if something in it draws, and none otherwise. -/
theorem calls_handle (d : Dispatcher Recorder γ) (batch : List Request) :
    (d.handle batch).2.sink.calls =
      d.sink.calls ++ if (heeded batch).any Request.draws
        then [.of (d.handle batch).2.shared.slot.load] else [] := by
  have silent := sink_heeds d (heeded batch)
  rw [handle_eq]
  by_cases draws : (heeded batch).any Request.draws
  · simp [draws, render, Sink.apply, silent]
  · simp [draws, silent]

theorem getLast?_calls_handle (d : Dispatcher Recorder γ) (batch : List Request) :
    (d.handle batch).2.sink.calls.getLast? =
      if (heeded batch).any Request.draws then some (.of (d.handle batch).2.shared.slot.load)
      else d.sink.calls.getLast? := by
  rw [calls_handle]
  split <;> simp

/-- Two batches, one after the other, end as the two of them together would. -/
theorem alike_handle_append (d : Dispatcher Recorder γ) {front : List Request}
    (absent : .shutdown ∉ front) (back : List Request) :
    Alike ((d.handle front).2.handle back).2 (d.handle (front ++ back)).2 := by
  have counts := heeded_append_of_not_mem absent back
  -- each of the three is what its requests change, with some sink or other
  obtain ⟨between, first⟩ := handle_withSink d front
  obtain ⟨apart, second⟩ := handle_withSink (d.handle front).2 back
  obtain ⟨joint, together⟩ := handle_withSink d (front ++ back)
  rw [heeded_of_not_mem absent] at first
  rw [first, heeds_withSink, ← first] at second
  rw [counts, List.foldl_append] at together
  have shared : ((d.handle front).2.handle back).2.shared =
      (d.handle (front ++ back)).2.shared := by
    rw [second, together]
    rfl
  refine ⟨shared, ?_, ?_, ?_⟩
  · rw [second, together]
    rfl
  · rw [second, together]
    rfl
  rw [getLast?_calls_handle, getLast?_calls_handle d (front ++ back), counts, List.any_append,
    shared]
  cases draws : (heeded back).any Request.draws with
  | true => simp
  | false =>
    -- what was drawn for the front was read from the slot that there is at the end
    have slot : (d.handle front).2.shared.slot = (d.handle (front ++ back)).2.shared.slot := by
      rw [first, together, shared_withSink, shared_withSink, slot_heeds _ draws]
    rw [getLast?_calls_handle, heeded_of_not_mem absent, slot]
    simp

/-! ### Batch after batch -/

section Serve

variable [Sink σ]

theorem serve_cons_of_mem (d : Dispatcher σ γ) {batch : List Request}
    (present : .shutdown ∈ batch) (rest : List (List Request)) :
    d.serve (batch :: rest) = d.handle batch := by
  have flow : (d.handle batch).1 = .stop :=
    (flow_handle d batch).trans (flowOf_eq_stop.mpr present)
  rw [serve]
  split
  next next eq =>
    rw [eq] at flow
    cases flow
  next last eq => exact eq.symm

theorem serve_cons_of_not_mem (d : Dispatcher σ γ) {batch : List Request}
    (absent : .shutdown ∉ batch) (rest : List (List Request)) :
    d.serve (batch :: rest) = (d.handle batch).2.serve rest := by
  have flow : (d.handle batch).1 = .proceed :=
    (flow_handle d batch).trans (flowOf_eq_proceed.mpr absent)
  rw [serve]
  split
  next next eq => rw [eq]
  next last eq =>
    rw [eq] at flow
    cases flow

theorem serve_append (d : Dispatcher σ γ) {front : List (List Request)}
    (absent : .shutdown ∉ front.flatten) (back : List (List Request)) :
    d.serve (front ++ back) = (d.serve front).2.serve back := by
  induction front generalizing d with
  | nil => rfl
  | cons first front ih =>
    simp only [List.flatten_cons, List.mem_append, not_or] at absent
    rw [List.cons_append, serve_cons_of_not_mem d absent.1, serve_cons_of_not_mem d absent.1,
      ih _ absent.2]

theorem serve_singleton (d : Dispatcher σ γ) (batch : List Request) :
    d.serve [batch] = d.handle batch := by
  by_cases present : .shutdown ∈ batch
  · exact serve_cons_of_mem d present []
  · rw [serve_cons_of_not_mem d present, handle_eq, flowOf, if_neg present]
    rfl

theorem flow_serve (d : Dispatcher σ γ) (batches : List (List Request)) :
    (d.serve batches).1 = flowOf batches.flatten := by
  induction batches generalizing d with
  | nil => rfl
  | cons batch rest ih =>
    rw [List.flatten_cons]
    by_cases present : .shutdown ∈ batch
    · rw [serve_cons_of_mem d present, flow_handle, flowOf_append_of_mem present]
      exact flowOf_eq_stop.mpr present
    · rw [serve_cons_of_not_mem d present, flowOf_append_of_not_mem present, ih]

/-- Neither what is behind a shutdown in its batch nor a later batch matters. -/
theorem serve_shutdown (d : Dispatcher σ γ) (front : List (List Request))
    (batch rest : List Request) (later : List (List Request)) :
    d.serve (front ++ (batch ++ .shutdown :: rest) :: later) =
      d.serve (front ++ [batch ++ [.shutdown]]) := by
  induction front generalizing d with
  | nil =>
    have regrouped : batch ++ .shutdown :: rest = (batch ++ [.shutdown]) ++ rest := by simp
    have present : .shutdown ∈ batch ++ [.shutdown] := by simp
    rw [List.nil_append, List.nil_append, regrouped,
      serve_cons_of_mem d (List.mem_append_left rest present), serve_cons_of_mem d present,
      handle_append_of_mem d present]
  | cons first front ih =>
    rw [List.cons_append, List.cons_append]
    -- an earlier shutdown ends both runs in the same batch
    by_cases present : .shutdown ∈ first
    · rw [serve_cons_of_mem d present, serve_cons_of_mem d present]
    · rw [serve_cons_of_not_mem d present, serve_cons_of_not_mem d present, ih]

theorem shutdown_mem_of_run {start last : Dispatcher σ γ} {batches : List (List Request)}
    (served : start.run batches = (.stop, last)) : .shutdown ∈ batches.flatten := by
  have flow := flow_serve start.refresh.render batches
  exact flowOf_eq_stop.mp (flow.symm.trans (congrArg Prod.fst served))

theorem shutdown_not_mem_of_run {start next : Dispatcher σ γ} {batches : List (List Request)}
    (served : start.run batches = (.proceed, next)) : .shutdown ∉ batches.flatten := by
  have flow := flow_serve start.refresh.render batches
  exact flowOf_eq_proceed.mp (flow.symm.trans (congrArg Prod.fst served))

/-- A batch that has been processed to its end is one batch more. -/
theorem run_concat {start before now : Dispatcher σ γ} {batches : List (List Request)}
    {batch : List Request} {verdict : Verdict} (served : start.run batches = (.proceed, before))
    (processed : (verdict, now) = process false batch before) :
    start.run (batches ++ [batch]) =
      (verdict.flow, if verdict.render then now.render else now) := by
  have handled : before.handle batch =
      (verdict.flow, if verdict.render then now.render else now) := by
    simp only [handle, ← processed]
  have reached : (start.refresh.render.serve batches).2 = before := congrArg Prod.snd served
  rw [run, serve_append _ (shutdown_not_mem_of_run served), reached, serve_singleton, handled]

end Serve

/-- Any way to cut requests into batches ends as handling them all at once would. -/
theorem serve_alike (d : Dispatcher Recorder γ) (batches : List (List Request)) :
    Alike (d.serve batches).2 (d.handle batches.flatten).2 := by
  induction batches generalizing d with
  | nil => exact .refl d
  | cons batch rest ih =>
    -- the later batches, taken together, are joined to this one
    rw [List.flatten_cons]
    by_cases present : .shutdown ∈ batch
    · rw [serve_cons_of_mem d present, handle_append_of_mem d present]
      exact .refl _
    · rw [serve_cons_of_not_mem d present]
      exact (ih _).trans (alike_handle_append d present rest.flatten)

/-- Handles the requests strictly one at a time. -/
def oneByOne [Sink σ] (d : Dispatcher σ γ) (requests : List Request) : Flow × Dispatcher σ γ :=
  d.serve (requests.map fun request => [request])

theorem flatten_singletons (requests : List Request) :
    (requests.map fun request => [request]).flatten = requests := by
  rw [← List.flatMap_def, List.flatMap_singleton']

theorem flow_oneByOne [Sink σ] (d : Dispatcher σ γ) (requests : List Request) :
    (d.oneByOne requests).1 = flowOf requests := by
  rw [oneByOne, flow_serve, flatten_singletons]

theorem handle_heeded [Sink σ] (d : Dispatcher σ γ) (requests : List Request) :
    (d.handle (heeded requests)).2 = (d.handle requests).2 := by
  rw [handle_eq, handle_eq, heeded_heeded]

/-- Cutting requests into batches and handling those before the shutdown one by one end alike,
since either ends as handling them all at once would. -/
theorem serve_alike_oneByOne (d : Dispatcher Recorder γ) (batches : List (List Request)) :
    Alike (d.serve batches).2 (d.oneByOne (heeded batches.flatten)).2 := by
  have apart := serve_alike d ((heeded batches.flatten).map fun request => [request])
  rw [flatten_singletons, handle_heeded] at apart
  exact (serve_alike d batches).trans apart.symm

end Dispatcher

end EdgeReveal
