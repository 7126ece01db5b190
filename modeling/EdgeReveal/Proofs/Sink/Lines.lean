import EdgeReveal.Proofs.Text.Cutting
import EdgeReveal.Sink.JsonLines
import Mathlib

/-!
# Lines that a failing writer gets

A line is written in pieces, and one that is given up stays unfinished in what the writer has
accepted. So each line that ends has the object of one call at its end, behind whatever the calls
before it left unfinished. All of them are objects if and only if no line gets through whole after
one was torn.
-/
namespace EdgeReveal

/-! ### Texts and their lines -/

/-- The lines of a text that end in a newline, without it. -/
def terminated (text : List Char) : List (List Char) := (text.splitOn '\n').dropLast

section Terminated

variable {body : List Char}

theorem terminated_of_not_mem (unended : '\n' ∉ body) : terminated body = [] := by
  rw [terminated, List.splitOn_eq_singleton unended]
  rfl

theorem terminated_append (unended : '\n' ∉ body) (rest : List Char) :
    terminated (body ++ '\n' :: rest) = body :: terminated rest := by
  have others : rest.splitOn '\n' ≠ [] := List.splitOn_ne_nil _ _
  rw [terminated, Text.splitOn_append_cons unended, List.dropLast_cons_of_ne_nil others, terminated]

end Terminated

/-! ### The object of a call -/

namespace Rendering

variable (r : Rendering)

/-- The object and its newline. -/
def line : List Char := r.json ++ ['\n']

theorem flatten_jsonPieces : r.jsonPieces.flatten = r.line := by
  simp [line, json, jsonPieces]

theorem newline_not_mem_json : '\n' ∉ r.json := by
  obtain ⟨shown, state⟩ := r
  cases shown <;> cases state <;> decide

theorem count_brace_json : r.json.count '\x7b' = 1 := by
  obtain ⟨shown, state⟩ := r
  cases shown <;> cases state <;> decide

theorem line_eq_cons : ∃ rest, r.line = '\x7b' :: rest := ⟨_, rfl⟩

end Rendering

/-! ### One call -/

namespace Outlet

variable (outlet : Outlet)

theorem write_faults (text : List Char) : (outlet.write text).2.faults = outlet.faults := by
  unfold write
  split <;> rfl

theorem write_accepts (text : List Char) : ∃ part, part <+: text ∧
    (outlet.write text).2.accepted = outlet.accepted ++ part ∧
    ((outlet.write text).1 = true → part = text) := by
  unfold write
  split
  next => exact ⟨text, List.prefix_rfl, rfl, fun _ => rfl⟩
  next taken _ => exact ⟨text.take taken, List.take_prefix _ _, rfl, nofun⟩

theorem writeAll_faults (texts : List (List Char)) :
    (outlet.writeAll texts).2.faults = outlet.faults := by
  induction texts generalizing outlet with
  | nil => rfl
  | cons text rest ih =>
    have kept := outlet.write_faults text
    unfold writeAll
    split
    next next written =>
      rw [written] at kept
      exact (ih next).trans kept
    next next written =>
      rw [written] at kept
      exact kept

/-- Texts are accepted from the first on, and the first that fails may be accepted in part. -/
theorem writeAll_accepts (texts : List (List Char)) : ∃ part, part <+: texts.flatten ∧
    (outlet.writeAll texts).2.accepted = outlet.accepted ++ part ∧
    ((outlet.writeAll texts).1 = true → part = texts.flatten) := by
  induction texts generalizing outlet with
  | nil => exact ⟨[], List.prefix_rfl, (List.append_nil _).symm, fun _ => rfl⟩
  | cons text rest ih =>
    obtain ⟨part, front, accepted, all⟩ := outlet.write_accepts text
    unfold writeAll
    split
    next next written =>
      rw [written] at accepted all
      cases all rfl
      obtain ⟨more, front, others, all⟩ := ih next
      refine ⟨text ++ more, (List.prefix_append_right_inj text).mpr front, ?_, fun success => ?_⟩
      · rw [others, accepted, List.append_assoc]
      · rw [all success, List.flatten_cons]
    next next written =>
      rw [written] at accepted
      exact ⟨part, front.trans (List.prefix_append _ _), accepted, nofun⟩

theorem writeAll_sound (sound : ∀ n, outlet.faults n = none) (texts : List (List Char)) :
    (outlet.writeAll texts).1 = true := by
  induction texts generalizing outlet with
  | nil => rfl
  | cons text rest ih =>
    have written : outlet.write text = (true, (outlet.write text).2) := by
      simp [write, sound]
    rw [writeAll, written]
    exact ih _ (by rwa [outlet.write_faults])

end Outlet

/-! ### Call after call -/

/-- A call and what the writer has accepted of its line. -/
structure Written where
  call : Rendering
  part : List Char

namespace Written

/-- The line is there to its end. -/
def Whole (written : Written) : Prop := written.part = written.call.line

/-- The line was begun and given up. -/
def Torn (written : Written) : Prop := written.part ≠ [] ∧ ¬ written.Whole

instance : DecidablePred Whole := fun written => decEq written.part written.call.line

variable {written : Written}

/-- A line that is not whole has no end. -/
theorem newline_not_mem (front : written.part <+: written.call.line)
    (unfinished : ¬ written.Whole) :
    '\n' ∉ written.part := by
  obtain same | short := List.prefix_concat_iff.mp front
  · exact absurd same unfinished
  · exact fun mem => written.call.newline_not_mem_json (short.subset mem)

theorem brace_mem (front : written.part <+: written.call.line) (begun : written.part ≠ []) :
    '\x7b' ∈ written.part := by
  obtain ⟨rest, line⟩ := written.call.line_eq_cons
  rw [line] at front
  match part : written.part with
  | [] => exact absurd part begun
  | c :: more =>
    rw [part, List.cons_prefix_cons] at front
    exact front.1 ▸ List.mem_cons_self

end Written

namespace JsonLines

/-- The calls of a sink with what each of them adds to what its writer has accepted. -/
def written : JsonLines → List Rendering → List Written
  | _, [] => []
  | sink, call :: calls =>
    let next := Sink.apply sink call
    ⟨call, next.outlet.accepted.drop sink.outlet.accepted.length⟩ :: next.written calls

end JsonLines

/-- The lines of parts behind `left`: each whole line has what was left unfinished in front. -/
def joined (left : List Char) : List Written → List (List Char)
  | [] => []
  | ⟨call, part⟩ :: rest =>
    if part = call.line then (left ++ call.json) :: joined [] rest else joined (left ++ part) rest

section Joined

variable {left : List Char} {parts : List Written}

theorem joined_whole {written : Written} (whole : written.Whole) (rest : List Written) :
    joined left (written :: rest) = (left ++ written.call.json) :: joined [] rest := if_pos whole

theorem joined_unfinished {written : Written} (unfinished : ¬ written.Whole)
    (rest : List Written) :
    joined left (written :: rest) = joined (left ++ written.part) rest := if_neg unfinished

/-- Only a line that gets through whole brings a newline. -/
theorem terminated_parts (unended : '\n' ∉ left)
    (fronts : ∀ written ∈ parts, written.part <+: written.call.line) :
    terminated (left ++ parts.flatMap (·.part)) = joined left parts := by
  induction parts generalizing left with
  | nil => simpa [joined] using terminated_of_not_mem unended
  | cons written rest ih =>
    obtain ⟨front, fronts⟩ := List.forall_mem_cons.mp fronts
    rw [List.flatMap_cons]
    by_cases whole : written.Whole
    · have object : '\n' ∉ left ++ written.call.json := by
        simp [unended, written.call.newline_not_mem_json]
      rw [joined_whole whole, ← ih (List.not_mem_nil) fronts, whole, Rendering.line,
        ← terminated_append object]
      simp
    · have part : '\n' ∉ left ++ written.part := by
        simp [unended, written.newline_not_mem front whole]
      rw [joined_unfinished whole, ← ih part fronts, List.append_assoc]

theorem joined_eq_nil (unfinished : ∀ written ∈ parts, ¬ written.Whole) :
    joined left parts = [] := by
  induction parts generalizing left with
  | nil => rfl
  | cons written rest ih =>
    obtain ⟨first, others⟩ := List.forall_mem_cons.mp unfinished
    rw [joined_unfinished first, ih others]

/-- No line gets through whole after one that was torn. -/
def Clean (parts : List Written) : Prop :=
  parts.Pairwise fun earlier later => earlier.Torn → ¬ later.Whole

/-- Every line is the object of some call. -/
def Objects (lines : List (List Char)) : Prop :=
  ∀ line ∈ lines, ∃ call : Rendering, line = call.json

theorem joined_of_clean (clean : Clean parts) :
    joined [] parts = (parts.filter (·.Whole)).map (·.call.json) := by
  induction clean with
  | nil => rfl
  | @cons written rest later clean ih =>
    by_cases whole : written.Whole
    · rw [joined_whole whole, ih, List.filter_cons_of_pos (by simpa using whole)]
      rfl
    · rw [joined_unfinished whole, List.filter_cons_of_neg (by simpa using whole)]
      by_cases begun : written.part = []
      · rw [begun, ← ih]
        rfl
      · -- behind a torn line nothing gets through whole, so neither side has any more lines
        have unfinished : ∀ other ∈ rest, ¬ other.Whole :=
          fun other mem => later other mem ⟨begun, whole⟩
        rw [joined_eq_nil unfinished]
        simpa using unfinished

/-- An object has one opening brace, so none ends a line that has an earlier one. -/
theorem not_whole_of_objects (brace : '\x7b' ∈ left) (objects : Objects (joined left parts)) :
    ∀ written ∈ parts, ¬ written.Whole := by
  induction parts generalizing left with
  | nil => simp
  | cons written rest ih =>
    have unfinished : ¬ written.Whole := by
      intro whole
      rw [joined_whole whole] at objects
      obtain ⟨call, same⟩ := objects _ List.mem_cons_self
      have count := congrArg (List.count '\x7b') same
      rw [List.count_append, Rendering.count_brace_json, Rendering.count_brace_json] at count
      have before := List.count_pos_iff.mpr brace
      omega
    rw [joined_unfinished unfinished] at objects
    exact List.forall_mem_cons.mpr ⟨unfinished, ih (List.mem_append_left _ brace) objects⟩

theorem clean_of_objects (fronts : ∀ written ∈ parts, written.part <+: written.call.line)
    (objects : Objects (joined [] parts)) : Clean parts := by
  induction parts with
  | nil => exact .nil
  | cons written rest ih =>
    obtain ⟨front, fronts⟩ := List.forall_mem_cons.mp fronts
    by_cases whole : written.Whole
    · rw [joined_whole whole] at objects
      exact .cons (fun other _ torn => absurd whole torn.2)
        (ih fronts fun line mem => objects line (.tail _ mem))
    · rw [joined_unfinished whole, List.nil_append] at objects
      by_cases begun : written.part = []
      · rw [begun] at objects
        exact .cons (fun other _ torn => absurd begun torn.1) (ih fronts objects)
      · -- what was given up begins with a brace, which stays in front of whatever comes next
        have unfinished := not_whole_of_objects (written.brace_mem front begun) objects
        exact .cons (fun other mem _ => unfinished other mem)
          (List.pairwise_of_forall_mem_list fun _ _ other mem _ => unfinished other mem)

end Joined

/-! ### Runs -/

namespace JsonLines

variable (sink : JsonLines) (call : Rendering) (calls : List Rendering)

theorem apply_faults : (Sink.apply sink call).outlet.faults = sink.outlet.faults :=
  sink.outlet.writeAll_faults _

theorem apply_accepts : ∃ part, part <+: call.line ∧
    (Sink.apply sink call).outlet.accepted = sink.outlet.accepted ++ part ∧
    ((∀ n, sink.outlet.faults n = none) → part = call.line) := by
  obtain ⟨part, front, accepted, all⟩ := sink.outlet.writeAll_accepts call.jsonPieces
  rw [call.flatten_jsonPieces] at front all
  exact ⟨part, front, accepted, fun sound => all (sink.outlet.writeAll_sound sound _)⟩

theorem written_cons {part : List Char}
    (accepted : (Sink.apply sink call).outlet.accepted = sink.outlet.accepted ++ part) :
    sink.written (call :: calls) = ⟨call, part⟩ :: (Sink.apply sink call).written calls := by
  rw [written, accepted, List.drop_left]

theorem calls_written : (sink.written calls).map (·.call) = calls := by
  induction calls generalizing sink with
  | nil => rfl
  | cons call calls ih => rw [written, List.map_cons, ih]

theorem fronts_written : ∀ written ∈ sink.written calls, written.part <+: written.call.line := by
  induction calls generalizing sink with
  | nil => nofun
  | cons call calls ih =>
    obtain ⟨part, front, accepted, -⟩ := sink.apply_accepts call
    rw [sink.written_cons call calls accepted]
    exact List.forall_mem_cons.mpr ⟨front, ih _⟩

theorem accepted_eq : (calls.foldl Sink.apply sink).outlet.accepted =
    sink.outlet.accepted ++ (sink.written calls).flatMap (·.part) := by
  induction calls generalizing sink with
  | nil => exact (List.append_nil _).symm
  | cons call calls ih =>
    obtain ⟨part, -, accepted, -⟩ := sink.apply_accepts call
    rw [sink.written_cons call calls accepted, List.foldl_cons, ih, accepted, List.flatMap_cons,
      List.append_assoc]

theorem whole_of_sound (sound : ∀ n, sink.outlet.faults n = none) :
    ∀ written ∈ sink.written calls, written.Whole := by
  induction calls generalizing sink with
  | nil => nofun
  | cons call calls ih =>
    obtain ⟨part, -, accepted, all⟩ := sink.apply_accepts call
    rw [sink.written_cons call calls accepted]
    exact List.forall_mem_cons.mpr
      ⟨all sound, ih _ (by rwa [sink.apply_faults call])⟩

/-- Whichever of its writes fail and wherever they break off, a writer has accepted a beginning of
the line of each call, in their order. Its lines are the objects of the calls whose lines got
through whole, each behind what the calls since the one before it left unfinished. So every line is
an object if and only if no line gets through whole after one that was torn; then they are in the
order of their calls, one for each, and a writer that never fails has one for every call. -/
theorem lines_of_calls (faults : Nat → WriteFault) (calls : List Rendering) :
    let sink : JsonLines := ⟨{ faults }⟩
    let parts := sink.written calls
    let accepted := (calls.foldl Sink.apply sink).outlet.accepted
    parts.map (·.call) = calls ∧ accepted = parts.flatMap (·.part) ∧
    (∀ written ∈ parts, written.part <+: written.call.line) ∧
    terminated accepted = joined [] parts ∧
    ((∀ line ∈ terminated accepted, ∃ call ∈ calls, line = call.json) ↔ Clean parts) ∧
    (Clean parts → terminated accepted = (parts.filter (·.Whole)).map (·.call.json)) ∧
    ((∀ n, faults n = none) → terminated accepted = calls.map (·.json)) := by
  intro sink parts accepted
  have fronts := sink.fronts_written calls
  have isCalls : parts.map (·.call) = calls := sink.calls_written calls
  have isParts : accepted = parts.flatMap (·.part) := sink.accepted_eq calls
  have lines : terminated accepted = joined [] parts := by
    have behind := terminated_parts List.not_mem_nil fronts
    rwa [List.nil_append, ← isParts] at behind
  rw [lines]
  refine ⟨isCalls, isParts, fronts, rfl, ⟨fun objects => ?_, fun clean line mem => ?_⟩,
    joined_of_clean, fun sound => ?_⟩
  · refine clean_of_objects fronts fun line mem => ?_
    obtain ⟨call, -, same⟩ := objects line mem
    exact ⟨call, same⟩
  · rw [joined_of_clean clean] at mem
    obtain ⟨written, kept, rfl⟩ := List.mem_map.mp mem
    refine ⟨written.call, ?_, rfl⟩
    rw [← isCalls]
    exact List.mem_map_of_mem (List.mem_of_mem_filter kept)
  · have whole := sink.whole_of_sound calls sound
    have clean : Clean parts := List.pairwise_of_forall_mem_list
      fun earlier mem _ _ torn => absurd (whole earlier mem) torn.2
    rw [joined_of_clean clean, List.filter_eq_self.mpr (by simpa using whole), ← isCalls,
      List.map_map]
    rfl

/-- The third write of the first call breaks off after three characters. The call after it gets
through, and its object ends a line that is no object. -/
theorem line_behind_torn :
    let sink : JsonLines := ⟨{ faults := fun n => if n = 2 then some 3 else none }⟩
    let calls : List Rendering := [⟨true, .visible⟩, ⟨false, .hidden⟩]
    let lines := terminated (calls.foldl Sink.apply sink).outlet.accepted
    lines = ["\x7b\"vis\x7b\"visible\":false,\"state\":\"hidden\"\x7d".toList] ∧
    ¬ ∀ line ∈ lines, ∃ call ∈ calls, line = call.json := by
  decide

end JsonLines

end EdgeReveal
