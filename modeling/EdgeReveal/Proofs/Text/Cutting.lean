import EdgeReveal.Text.Blank
import Mathlib.Data.List.DropRight

/-!
# Texts cut in two and trimmed

A text is cut at the first mark of a kind. What trimming leaves is described without saying how it
goes about it: the text is the rest between runs of characters of the class, and the rest neither
begins nor ends with one of them. There is one such rest for each text.
-/
namespace EdgeReveal.Text

variable {p : Char → Bool} {text core tail before after : List Char} {mark : Char}

theorem takeWhile_ne_append (first : mark ∉ before) (after : List Char) :
    (before ++ mark :: after).takeWhile (· != mark) = before := by
  have other : ∀ c ∈ before, (c != mark) = true := fun c mem => by
    simpa using ne_of_mem_of_not_mem mem first
  rw [List.takeWhile_append_of_pos other]
  simp

theorem dropWhile_ne_append (first : mark ∉ before) (after : List Char) :
    (before ++ mark :: after).dropWhile (· != mark) = mark :: after := by
  have other : ∀ c ∈ before, (c != mark) = true := fun c mem => by
    simpa using ne_of_mem_of_not_mem mem first
  rw [List.dropWhile_append_of_pos other]
  simp

/-- The first piece of a list that is cut at every mark. -/
theorem splitOn_append_cons {α : Type} [BEq α] [LawfulBEq α] {mark : α} {before : List α}
    (first : mark ∉ before) (after : List α) :
    (before ++ mark :: after).splitOn mark = before :: after.splitOn mark := by
  refine List.splitOnP_append_cons_of_forall_mem (fun a mem => ?_) mark (by simp) after
  simpa using ne_of_mem_of_not_mem mem first

/-- The text is `core` and a run of characters of a class, and `core` does not end in one of
them. -/
structure EndsIn (p : Char → Bool) (text core tail : List Char) : Prop where
  whole : text = core ++ tail
  run : ∀ c ∈ tail, p c = true
  last : ∀ c, core.getLast? = some c → p c = false

theorem dropEndWhile_append (run : ∀ c ∈ tail, p c = true)
    (last : ∀ c, core.getLast? = some c → p c = false) : dropEndWhile p (core ++ tail) = core := by
  have ends : tail.reverse.dropWhile p = [] := by
    rw [List.dropWhile_eq_nil_iff]
    intro c mem
    exact run c (List.mem_reverse.mp mem)
  -- backwards the run comes first, and what is dropped stops at the end of `core`
  rw [dropEndWhile, List.reverse_append, List.dropWhile_append, ends]
  cases reversed : core.reverse with
  | nil => simpa using reversed
  | cons c before =>
    have front : p c = false := last c (by rw [List.getLast?_eq_head?_reverse, reversed]; rfl)
    rw [List.isEmpty_nil, if_pos rfl, List.dropWhile_cons_of_neg (by simp [front]), ← reversed,
      List.reverse_reverse]

theorem endsIn_dropEndWhile (p : Char → Bool) (text : List Char) :
    EndsIn p text (dropEndWhile p text) (text.rtakeWhile p) where
  whole := List.rdropWhile_append_rtakeWhile.symm
  run _ mem := List.mem_rtakeWhile_imp mem
  last c ends := by
    have nonempty : text.rdropWhile p ≠ [] := by
      rintro empty
      rw [dropEndWhile, ← List.rdropWhile, empty] at ends
      cases ends
    have stops := List.rdropWhile_last_not p text nonempty
    rw [dropEndWhile, ← List.rdropWhile, List.getLast?_eq_some_getLast nonempty] at ends
    rw [← Option.some.inj ends]
    exact Bool.eq_false_iff.mpr stops

theorem dropEndWhile_eq_iff : dropEndWhile p text = core ↔ ∃ tail, EndsIn p text core tail := by
  constructor
  · rintro rfl
    exact ⟨_, endsIn_dropEndWhile p text⟩
  · rintro ⟨tail, rfl, run, last⟩
    exact dropEndWhile_append run last

/-- `core` is what stands between the blanks at both ends of a text. -/
structure Trims (text core : List Char) : Prop where
  parts : ∃ front tail, text = front ++ core ++ tail ∧ (∀ c ∈ front, isBlank c = true) ∧
    ∀ c ∈ tail, isBlank c = true
  first : ∀ c, core.head? = some c → isBlank c = false
  last : ∀ c, core.getLast? = some c → isBlank c = false

theorem trim_eq_iff : trim text = core ↔ Trims text core := by
  constructor
  · intro trimmed
    obtain ⟨tail, whole, run, last⟩ := dropEndWhile_eq_iff.mp trimmed
    have front := List.takeWhile_append_dropWhile (p := isBlank) (l := text)
    refine ⟨⟨text.takeWhile isBlank, tail, ?_, fun _ mem => ?_, run⟩, fun c begins => ?_, last⟩
    · rw [List.append_assoc, ← whole, front]
    · exact List.mem_takeWhile_imp mem
    · have head : (text.dropWhile isBlank).head? = some c := by
        rw [whole, List.head?_append, begins]
        rfl
      have stops := List.head?_dropWhile_not isBlank text
      rw [head] at stops
      exact stops
  · rintro ⟨⟨front, tail, rfl, blank, run⟩, first, last⟩
    rw [trim, List.append_assoc, List.dropWhile_append_of_pos blank]
    cases core with
    | nil =>
      -- a text of nothing but blanks is dropped from the front
      have all : tail.dropWhile isBlank = [] := List.dropWhile_eq_nil_iff.mpr run
      rw [List.nil_append, all]
      rfl
    | cons c more =>
      have stops : ¬ isBlank c = true := by simp [first c rfl]
      rw [List.cons_append, List.dropWhile_cons_of_neg stops, ← List.cons_append]
      exact dropEndWhile_append run last

end EdgeReveal.Text
