import EdgeReveal.Event
import EdgeReveal.Proofs.Text.Cutting
import Mathlib

/-!
# The parts of an event line

A line is a name, a separator, data and line ends, in this order, and nothing else. Which part a
character belongs to is settled by a few conditions on the parts, so an event is read off its line
in one way only. Cutting the line at byte offsets gives the same parts: the offset of a separator
is always one between two characters.
-/
namespace EdgeReveal.Event

variable {text name data separator : List Char} {e : Event}

/-- A text without its line end, taken apart. Where there is no separator there is no data, and a
single mark separates only if no other one follows it. -/
structure Separates (text separator : List Char) (e : Event) : Prop where
  whole : text = e.name.toList ++ separator ++ e.data.toList
  name : '>' ∉ e.name.toList
  marks : separator = [] ∨ separator = ['>'] ∨ separator = ['>', '>']
  bare : separator = [] → '>' ∉ text ∧ e.data = ""
  single : separator = ['>'] → e.data.toList.head? ≠ some '>'

/-! ### Splitting -/

theorem split_bare (bare : '>' ∉ name) : split name = (name, []) := by
  have other : ∀ c ∈ name, (c != '>') = true := fun c mem => by
    simpa using ne_of_mem_of_not_mem mem bare
  have none : name.dropWhile (· != '>') = [] := List.dropWhile_eq_nil_iff.mpr other
  have all : name.takeWhile (· != '>') = name := List.takeWhile_eq_self_iff.mpr other
  rw [split, none, all]

theorem split_single (first : '>' ∉ name) (other : data.head? ≠ some '>') :
    split (name ++ '>' :: data) = (name, data) := by
  rw [split, Text.dropWhile_ne_append first, Text.takeWhile_ne_append first]
  cases data with
  | nil => rfl
  | cons c data =>
    -- of the four forms that the rest may have, only the one with a single mark fits
    split
    next none => cases none
    next alone => cases alone
    next double =>
      cases double
      exact absurd rfl other
    next same => rw [(List.cons.inj same).2]

theorem split_double (first : '>' ∉ name) (data : List Char) :
    split (name ++ '>' :: '>' :: data) = (name, data) := by
  rw [split, Text.dropWhile_ne_append first, Text.takeWhile_ne_append first]
  rfl

theorem Separates.split_eq (parts : Separates text separator e) :
    split text = (e.name.toList, e.data.toList) := by
  obtain ⟨rfl, name, rfl | rfl | rfl, bare, single⟩ := parts
  · obtain ⟨unmarked, none⟩ := bare rfl
    rw [split_bare unmarked, none]
    simp
  · rw [List.append_assoc]
    exact split_single name (single rfl)
  · rw [List.append_assoc]
    exact split_double name e.data.toList

/-- Every text can be taken apart. -/
theorem exists_separates (text : List Char) : ∃ separator e, Separates text separator e := by
  -- cut at the first mark, and a second one right behind it belongs to the separator
  by_cases marked : '>' ∈ text
  · obtain ⟨name, rest, rfl, first⟩ := List.eq_append_cons_of_mem marked
    by_cases double : rest.head? = some '>'
    · obtain ⟨data, rfl⟩ := List.head?_eq_some_iff.mp double
      refine ⟨['>', '>'], ⟨.ofList name, .ofList data⟩, ?_⟩
      constructor <;> simp [first]
    · refine ⟨['>'], ⟨.ofList name, .ofList rest⟩, ?_⟩
      constructor <;> simp [first, double]
  · refine ⟨[], ⟨.ofList text, ""⟩, ?_⟩
    constructor <;> simp [marked]

theorem eq_of_parts {e other : Event}
    (same : (e.name.toList, e.data.toList) = (other.name.toList, other.data.toList)) :
    e = other := by
  cases e
  cases other
  simpa [String.toList_inj] using same

theorem parts_ofLine (line : String) : ((ofLine line).name.toList, (ofLine line).data.toList) =
    split (Text.dropEndWhile isLineEnd line.toList) := by
  simp [ofLine]

theorem separates_iff : (∃ separator, Separates text separator e) ↔
    split text = (e.name.toList, e.data.toList) := by
  constructor
  · rintro ⟨separator, parts⟩
    exact parts.split_eq
  · intro parted
    -- splitting determines the event, so the parts that exist are the parts of this one
    obtain ⟨separator, other, parts⟩ := exists_separates text
    have same := eq_of_parts (parted.symm.trans parts.split_eq)
    exact ⟨separator, same ▸ parts⟩

theorem ofLine_eq_iff {line : String} : ofLine line = e ↔
    ∃ text tail separator, Text.EndsIn isLineEnd line.toList text tail ∧
      Separates text separator e := by
  have read : ofLine line = e ↔
      split (Text.dropEndWhile isLineEnd line.toList) = (e.name.toList, e.data.toList) := by
    rw [← parts_ofLine]
    exact ⟨fun same => same ▸ rfl, eq_of_parts⟩
  rw [read, ← separates_iff]
  constructor
  · rintro ⟨separator, parts⟩
    exact ⟨_, _, separator, Text.endsIn_dropEndWhile isLineEnd line.toList, parts⟩
  · rintro ⟨text, tail, separator, ends, parts⟩
    rw [Text.dropEndWhile_eq_iff.mpr ⟨tail, ends⟩]
    exact ⟨separator, parts⟩

/-! ### Cutting at byte offsets -/

/-- The byte offset of the first mark in a text. -/
def offset? (mark : Char) : List Char → Option Nat
  | [] => none
  | c :: rest => if c = mark then some 0 else (offset? mark rest).map (c.utf8Size + ·)

/-- A text cut at a byte offset. There is nothing to cut where the offset is inside a character or
beyond the end. -/
def cutAt? : Nat → List Char → Option (List Char × List Char)
  | 0, text => some ([], text)
  | _ + 1, [] => none
  | offset + 1, c :: rest =>
    if c.utf8Size ≤ offset + 1 then
      (cutAt? (offset + 1 - c.utf8Size) rest).map fun (front, back) => (c :: front, back)
    else none

/-- Two marks are taken off the front of what follows the name, and one mark if there are not two.
The second cut is made in either case. -/
def splitAtOffset? (line : List Char) : Option (List Char × List Char) :=
  match offset? '>' line with
  | none => some (line, [])
  | some offset => do
    let (name, rest) ← cutAt? offset line
    let (_, behind) ← cutAt? 1 rest
    return (name, (rest.dropPrefix? ['>', '>']).getD behind)

def byteSize (text : List Char) : Nat := (text.map Char.utf8Size).sum

theorem offset?_eq_none (unmarked : '>' ∉ text) : offset? '>' text = none := by
  induction text with
  | nil => rfl
  | cons c rest ih =>
    simp only [List.mem_cons, not_or] at unmarked
    rw [offset?, if_neg (Ne.symm unmarked.1), ih unmarked.2, Option.map_none]

theorem offset?_append (first : '>' ∉ name) (rest : List Char) :
    offset? '>' (name ++ '>' :: rest) = some (byteSize name) := by
  induction name with
  | nil => rfl
  | cons c name ih =>
    simp only [List.mem_cons, not_or] at first
    rw [List.cons_append, offset?, if_neg (Ne.symm first.1), ih first.2, Option.map_some]
    rfl

theorem cutAt?_append (front back : List Char) :
    cutAt? (byteSize front) (front ++ back) = some (front, back) := by
  induction front with
  | nil => simp [byteSize, cutAt?]
  | cons c front ih =>
    -- a character has at least one byte, so the offset is not zero
    have wide := c.utf8Size_pos
    have size : byteSize (c :: front) = c.utf8Size + byteSize front := rfl
    obtain ⟨offset, next⟩ : ∃ offset, c.utf8Size + byteSize front = offset + 1 :=
      ⟨_, (Nat.sub_add_cancel (by omega)).symm⟩
    have left : offset + 1 - c.utf8Size = byteSize front := by omega
    rw [size, next, List.cons_append, cutAt?, if_pos (by omega), left, ih, Option.map_some]

theorem splitAtOffset?_append (first : '>' ∉ name) (rest : List Char) :
    splitAtOffset? (name ++ '>' :: rest) =
      some (name, (('>' :: rest).dropPrefix? ['>', '>']).getD rest) := by
  have front := cutAt?_append name ('>' :: rest)
  have mark : cutAt? 1 ('>' :: rest) = some (['>'], rest) := cutAt?_append ['>'] rest
  simp [splitAtOffset?, offset?_append first, front, mark]

/-- No cut fails, and the parts are those of the text taken as characters. -/
theorem splitAtOffset?_eq (line : List Char) : splitAtOffset? line = some (split line) := by
  by_cases marked : '>' ∈ line
  · obtain ⟨name, rest, rfl, first⟩ := List.eq_append_cons_of_mem marked
    rw [splitAtOffset?_append first]
    by_cases double : rest.head? = some '>'
    · obtain ⟨data, rfl⟩ := List.head?_eq_some_iff.mp double
      rw [split_double first]
      simp [List.dropPrefix?]
    · rw [split_single first double]
      cases rest with
      | nil => simp [List.dropPrefix?]
      | cons c rest =>
        have other : c ≠ '>' := fun same => double (congrArg some same)
        simp [List.dropPrefix?, other]
  · rw [splitAtOffset?, offset?_eq_none marked, split_bare marked]

/-- An event is what its line falls apart into: name, separator and data together are the line
without its end, so nothing is lost and nothing is made up. No cut at a byte offset fails in it.
Any name, any data and any line ends make up a line that falls apart into that name and that data,
if the name has no mark and the data does not end like a line. -/
theorem line_falls_apart :
    (∀ line e, ofLine line = e ↔ ∃ text tail separator,
      Text.EndsIn isLineEnd line.toList text tail ∧ Separates text separator e) ∧
    (∀ line, splitAtOffset? (Text.dropEndWhile isLineEnd line.toList) =
      some ((ofLine line).name.toList, (ofLine line).data.toList)) ∧
    ∀ name data tail : String, '>' ∉ name.toList →
      (∀ c, data.toList.getLast? = some c → isLineEnd c = false) →
      (∀ c ∈ tail.toList, isLineEnd c = true) →
        ofLine (name ++ ">>" ++ data ++ tail) = ⟨name, data⟩ := by
  refine ⟨fun _ _ => ofLine_eq_iff, fun line => ?_, fun name data tail first last ends => ?_⟩
  · rw [splitAtOffset?_eq, parts_ofLine]
  · refine ofLine_eq_iff.mpr ⟨(name ++ ">>" ++ data).toList, tail.toList, ['>', '>'], ?_, ?_⟩
    · refine ⟨String.toList_append, ends, fun c final => ?_⟩
      rw [String.toList_append, List.getLast?_append] at final
      cases ending : data.toList.getLast? with
      | none =>
        -- the line then ends in the separator
        have mark : (name ++ ">>").toList.getLast? = some '>' := by simp
        rw [ending, mark] at final
        cases final
        rfl
      | some d =>
        rw [ending] at final
        cases final
        exact last c ending
    · constructor <;> simp [first]

/-- A name with characters of two and four bytes, data that begins with a mark and has a line
break and a comma in it, and line ends in any order; and a line whose last character is its only
mark. -/
theorem line_falls_apart_emoji :
    ofLine "é🙂>>>a,b\r\nc\n\r\n" = ⟨"é🙂", ">a,b\r\nc"⟩ ∧
    (∃ text tail separator, Text.EndsIn isLineEnd "é🙂>".toList text tail ∧
      Separates text separator ⟨"é🙂", ""⟩) ∧
    splitAtOffset? "é🙂>".toList = some ("é🙂".toList, []) := by
  obtain ⟨parts, offsets, whole⟩ := line_falls_apart
  have final : ∀ c, ">a,b\r\nc".toList.getLast? = some c → isLineEnd c = false := by
    intro c last
    cases last
    rfl
  have ends : "\n\r\n".toList.all isLineEnd = true := by decide
  have marked := whole "é🙂" ">a,b\r\nc" "\n\r\n" (by decide +kernel) final
    (List.all_eq_true.mp ends)
  have read : ofLine "é🙂>" = ⟨"é🙂", ""⟩ := by decide +kernel
  exact ⟨marked, (parts _ _).mp read, offsets "é🙂>"⟩

end EdgeReveal.Event
