import EdgeReveal.Proofs.Json.Scalars

/-!
# Every JSON text is read as what it spells

A spelled value is read in front of anything that does not go on with a numeral, however deep it is
nested, and the fuel that the reader takes from the length of the text is enough. So a text spells
at most one value.
-/
namespace EdgeReveal.Json

open Numeral (Stops)

variable {text blank rest : List Char} {value : Value} {items : List Value}
  {members : List (Characters × Value)}

-- one step of the reader, wherever there is fuel for it
attribute [simp] value? items? members?

/-! ### White space in front and behind -/

theorem skipSpace_skipSpace (text : List Char) : skipSpace (skipSpace text) = skipSpace text :=
  List.dropWhile_idempotent isSpace text

theorem value?_skipSpace (fuel : Nat) (text : List Char) :
    value? fuel (skipSpace text) = value? fuel text := by
  cases fuel with
  | zero => rw [value?, value?]
  | succ fuel => rw [value?, value?, skipSpace_skipSpace]

theorem items?_skipSpace (fuel : Nat) (text : List Char) :
    items? fuel (skipSpace text) = items? fuel text := by
  cases fuel with
  | zero => rw [items?, items?]
  | succ fuel => rw [items?, items?, value?_skipSpace]

theorem members?_skipSpace (fuel : Nat) (text : List Char) :
    members? fuel (skipSpace text) = members? fuel text := by
  cases fuel with
  | zero => rw [members?, members?]
  | succ fuel => rw [members?, members?, skipSpace_skipSpace]

theorem stops_blank (white : Blank blank) (stops : Stops rest) : Stops (blank ++ rest) := by
  have ends : ∀ c ∈ [' ', '\t', '\n', '\r'], Numeral.goesOn c = false := by
    simp [Numeral.goesOn, Text.isDigit]
  cases blank with
  | nil => exact stops
  | cons c blank => exact Numeral.stops_cons (ends c (white c List.mem_cons_self))

/-! ### How a value begins -/

theorem Spelled.head (spelled : Spelled text value) :
    ∃ c more, text = c :: more ∧ isSpace c = false ∧ c ≠ ']' := by
  cases spelled with
  | number numeral =>
    obtain ⟨c, more, rfl, dark, other⟩ := numeral.head
    exact ⟨c, more, rfl, dark, other ']' rfl (by decide)⟩
  | text quoted =>
    obtain ⟨body, rfl, -⟩ := characters?_spelled quoted []
    exact ⟨'"', body, rfl, rfl, by decide⟩
  | _ => exact ⟨_, _, rfl, rfl, by decide⟩

theorem Padded.head (padded : Padded text value) (rest : List Char) :
    ∃ c more, skipSpace (text ++ rest) = c :: more ∧ c ≠ ']' := by
  cases padded with
  | pad front core back =>
    obtain ⟨c, more, rfl, dark, other⟩ := core.head
    rw [List.append_assoc, skipSpace_blank front]
    exact ⟨c, _, skipSpace_cons dark _, other⟩

theorem ItemsSpelled.head (listed : ItemsSpelled text items) (rest : List Char) :
    ∃ c more, skipSpace (text ++ rest) = c :: more ∧ c ≠ ']' := by
  cases listed with
  | last item => exact item.head rest
  | more item listed =>
    rw [List.append_assoc]
    exact item.head _

theorem MembersSpelled.head (listed : MembersSpelled text members) (rest : List Char) :
    ∃ more, skipSpace (text ++ rest) = '"' :: more := by
  cases listed with
  | last front named | more front named =>
    obtain ⟨body, rfl, -⟩ := characters?_spelled named []
    rw [List.append_assoc, skipSpace_blank front]
    exact ⟨_, skipSpace_cons rfl _⟩

/-! ### One token after the other -/

/-- A text is read as a value, with enough fuel and in front of anything that ends a numeral. -/
def Reads (text : List Char) (value : Value) : Prop :=
  ∀ fuel rest, 2 * text.length ≤ fuel + 1 → Stops rest →
    value? fuel (text ++ rest) = some (value, rest)

/-- As `Reads`, but white space may be left over. -/
def ReadsPadded (text : List Char) (value : Value) : Prop :=
  ∀ fuel rest, 2 * text.length ≤ fuel + 1 → Stops rest →
    ∃ behind, value? fuel (text ++ rest) = some (value, behind) ∧ skipSpace behind = skipSpace rest

def ReadsItems (text : List Char) (items : List Value) : Prop :=
  ∀ fuel rest, 2 * text.length + 1 ≤ fuel → items? fuel (text ++ ']' :: rest) = some (items, rest)

def ReadsMembers (text : List Char) (members : List (Characters × Value)) : Prop :=
  ∀ fuel rest, 2 * text.length + 1 ≤ fuel →
    members? fuel (text ++ '\x7d' :: rest) = some (members, rest)

/-- The first character leaves fuel for one call. -/
theorem reads_cons {c : Char} (read : ∀ fuel rest, 2 * text.length ≤ fuel → Stops rest →
    value? (fuel + 1) (c :: (text ++ rest)) = some (value, rest)) : Reads (c :: text) value := by
  intro fuel rest enough stops
  rw [List.length_cons] at enough
  obtain ⟨left, rfl⟩ : ∃ left, fuel = left + 1 := ⟨fuel - 1, by omega⟩
  exact read left rest (by omega) stops

theorem reads_null : Reads ['n', 'u', 'l', 'l'] .null :=
  reads_cons fun fuel rest _ _ => by rw [value?, skipSpace_cons rfl]; rfl

theorem reads_yes : Reads ['t', 'r', 'u', 'e'] (.boolean true) :=
  reads_cons fun fuel rest _ _ => by rw [value?, skipSpace_cons rfl]; rfl

theorem reads_no : Reads ['f', 'a', 'l', 's', 'e'] (.boolean false) :=
  reads_cons fun fuel rest _ _ => by rw [value?, skipSpace_cons rfl]; rfl

theorem reads_number {n : Numeral} (numeral : n.Spelled text) : Reads text (.number n) := by
  obtain ⟨c, more, rfl, dark, other⟩ := numeral.head
  refine reads_cons fun fuel rest _ stops => ?_
  have read := Numeral.read?_spelled numeral stops
  rw [List.cons_append] at read
  rw [value?, skipSpace_cons dark]
  -- no other token begins with a digit or a minus sign
  split
  next same => cases same
  next same => exact absurd (List.cons.inj same).1 (other _ rfl (by decide))
  next same => exact absurd (List.cons.inj same).1 (other _ rfl (by decide))
  next same => exact absurd (List.cons.inj same).1 (other _ rfl (by decide))
  next same => exact absurd (List.cons.inj same).1 (other _ rfl (by decide))
  next same => exact absurd (List.cons.inj same).1 (other _ rfl (by decide))
  next same => exact absurd (List.cons.inj same).1 (other _ rfl (by decide))
  next => rw [read]; rfl

theorem reads_text {chars : Characters} (quoted : CharactersSpelled text chars) :
    Reads text (.text chars) := by
  obtain ⟨body, rfl, -⟩ := characters?_spelled quoted []
  refine reads_cons fun fuel rest _ _ => ?_
  obtain ⟨body, same, read⟩ := characters?_spelled quoted rest
  cases same
  rw [value?, skipSpace_cons rfl]
  simp [read]

theorem reads_noItems (inside : Blank blank) : Reads ('[' :: (blank ++ [']'])) (.array []) := by
  refine reads_cons fun fuel rest _ _ => ?_
  rw [List.append_assoc, value?, skipSpace_cons rfl]
  simp only [skipSpace_blank inside, List.singleton_append, skipSpace_cons (c := ']') rfl]

theorem reads_array (listed : ItemsSpelled text items) (reads : ReadsItems text items) :
    Reads ('[' :: (text ++ [']'])) (.array items) := by
  refine reads_cons fun fuel rest enough _ => ?_
  rw [List.length_append, List.length_singleton] at enough
  have read := reads fuel rest (by omega)
  -- the first item does not begin with a bracket, so the array is not taken for an empty one
  obtain ⟨c, more, head, other⟩ := listed.head (']' :: rest)
  rw [← items?_skipSpace, head] at read
  rw [List.append_assoc, List.singleton_append, value?, skipSpace_cons rfl]
  simp only [head]
  split
  next same => exact absurd (List.cons.inj same).1 other
  next => rw [read]; rfl

theorem reads_noMembers (inside : Blank blank) :
    Reads ('\x7b' :: (blank ++ ['\x7d'])) (.object []) := by
  refine reads_cons fun fuel rest _ _ => ?_
  rw [List.append_assoc, value?, skipSpace_cons rfl]
  simp only [skipSpace_blank inside, List.singleton_append, skipSpace_cons (c := '\x7d') rfl]

theorem reads_object (listed : MembersSpelled text members) (reads : ReadsMembers text members) :
    Reads ('\x7b' :: (text ++ ['\x7d'])) (.object members) := by
  refine reads_cons fun fuel rest enough _ => ?_
  rw [List.length_append, List.length_singleton] at enough
  have read := reads fuel rest (by omega)
  obtain ⟨more, head⟩ := listed.head ('\x7d' :: rest)
  rw [← members?_skipSpace, head] at read
  rw [List.append_assoc, List.singleton_append, value?, skipSpace_cons rfl]
  simp only [head]
  split
  next same => exact absurd (List.cons.inj same).1 (by decide)
  next => rw [read]; rfl

theorem readsPadded_pad {before after : List Char} (front : Blank before) (reads : Reads text value)
    (back : Blank after) : ReadsPadded (before ++ (text ++ after)) value := by
  intro fuel rest enough stops
  rw [List.length_append, List.length_append] at enough
  have read := reads fuel (after ++ rest) (by omega) (stops_blank back stops)
  refine ⟨after ++ rest, ?_, skipSpace_blank back rest⟩
  rw [List.append_assoc, List.append_assoc, ← value?_skipSpace, skipSpace_blank front,
    value?_skipSpace, read]

theorem readsItems_last (item : ReadsPadded text value) : ReadsItems text [value] := by
  intro fuel rest enough
  obtain ⟨fuel, rfl⟩ : ∃ left, fuel = left + 1 := ⟨fuel - 1, by omega⟩
  obtain ⟨behind, read, white⟩ := item fuel (']' :: rest) (by omega) (Numeral.stops_cons rfl)
  rw [items?, read]
  simp only [Option.bind_eq_bind, Option.bind_some, white, skipSpace_cons (c := ']') rfl]
  rfl

theorem readsItems_more {others : List Char} (item : ReadsPadded text value)
    (listed : ReadsItems others items) : ReadsItems (text ++ ',' :: others) (value :: items) := by
  intro fuel rest enough
  rw [List.length_append, List.length_cons] at enough
  obtain ⟨fuel, rfl⟩ : ∃ left, fuel = left + 1 := ⟨fuel - 1, by omega⟩
  obtain ⟨behind, read, white⟩ :=
    item fuel (',' :: (others ++ ']' :: rest)) (by omega) (Numeral.stops_cons rfl)
  rw [List.append_assoc, List.cons_append, items?, read]
  simp only [Option.bind_eq_bind, Option.bind_some, white, skipSpace_cons (c := ',') rfl,
    listed fuel rest (by omega)]
  rfl

theorem readsMembers_last {before name after : List Char} {key : Characters} (front : Blank before)
    (named : CharactersSpelled name key) (back : Blank after) (item : ReadsPadded text value) :
    ReadsMembers (before ++ (name ++ (after ++ ':' :: text))) [(key, value)] := by
  intro fuel rest enough
  simp only [List.length_append, List.length_cons] at enough
  obtain ⟨fuel, rfl⟩ : ∃ left, fuel = left + 1 := ⟨fuel - 1, by omega⟩
  obtain ⟨body, rfl, quoted⟩ := characters?_spelled named (after ++ ':' :: (text ++ '\x7d' :: rest))
  obtain ⟨behind, read, white⟩ := item fuel ('\x7d' :: rest) (by omega) (Numeral.stops_cons rfl)
  simp only [List.append_assoc, List.cons_append]
  rw [members?, skipSpace_blank front, skipSpace_cons rfl]
  simp only [quoted, Option.bind_eq_bind, Option.bind_some, skipSpace_blank back,
    skipSpace_cons (c := ':') rfl, read, white, skipSpace_cons (c := '\x7d') rfl]
  rfl

theorem readsMembers_more {before name after others : List Char} {key : Characters}
    (front : Blank before) (named : CharactersSpelled name key) (back : Blank after)
    (item : ReadsPadded text value) (listed : ReadsMembers others members) :
    ReadsMembers (before ++ (name ++ (after ++ ':' :: (text ++ ',' :: others))))
      ((key, value) :: members) := by
  intro fuel rest enough
  simp only [List.length_append, List.length_cons] at enough
  obtain ⟨fuel, rfl⟩ : ∃ left, fuel = left + 1 := ⟨fuel - 1, by omega⟩
  obtain ⟨body, rfl, quoted⟩ :=
    characters?_spelled named (after ++ ':' :: (text ++ ',' :: (others ++ '\x7d' :: rest)))
  obtain ⟨behind, read, white⟩ :=
    item fuel (',' :: (others ++ '\x7d' :: rest)) (by omega) (Numeral.stops_cons rfl)
  simp only [List.append_assoc, List.cons_append]
  rw [members?, skipSpace_blank front, skipSpace_cons rfl]
  simp only [quoted, Option.bind_eq_bind, Option.bind_some, skipSpace_blank back,
    skipSpace_cons (c := ':') rfl, read, white, skipSpace_cons (c := ',') rfl,
    listed fuel rest (by omega)]
  rfl

/-! ### Whole texts -/

mutual

theorem Spelled.reads : ∀ {text : List Char} {value : Value}, Spelled text value → Reads text value
  | _, _, .null => reads_null
  | _, _, .yes => reads_yes
  | _, _, .no => reads_no
  | _, _, .number numeral => reads_number numeral
  | _, _, .text quoted => reads_text quoted
  | _, _, .noItems inside => reads_noItems inside
  | _, _, .array listed => reads_array listed listed.reads
  | _, _, .noMembers inside => reads_noMembers inside
  | _, _, .object listed => reads_object listed listed.reads

theorem Padded.reads :
    ∀ {text : List Char} {value : Value}, Padded text value → ReadsPadded text value
  | _, _, .pad front core back => readsPadded_pad front core.reads back

theorem ItemsSpelled.reads :
    ∀ {text : List Char} {items : List Value}, ItemsSpelled text items → ReadsItems text items
  | _, _, .last item => readsItems_last item.reads
  | _, _, .more item listed => readsItems_more item.reads listed.reads

theorem MembersSpelled.reads : ∀ {text : List Char} {members : List (Characters × Value)},
    MembersSpelled text members → ReadsMembers text members
  | _, _, .last front named back item => readsMembers_last front named back item.reads
  | _, _, .more front named back item listed =>
    readsMembers_more front named back item.reads listed.reads

end

/-- A text is read as the value that it spells, if there is white space around it or not. -/
theorem parse?_of_padded {text : String} (padded : Padded text.toList value) :
    parse? text = some value := by
  have stops : Stops [] := fun c first => by cases first
  have enough : 2 * text.toList.length ≤ 2 * text.length + 2 + 1 := by
    rw [String.length_toList]
    omega
  obtain ⟨behind, read, white⟩ := padded.reads (2 * text.length + 2) [] enough stops
  rw [List.append_nil] at read
  rw [parse?, read]
  exact if_pos white

end EdgeReveal.Json
