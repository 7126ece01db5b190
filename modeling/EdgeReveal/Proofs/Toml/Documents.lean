import EdgeReveal.Proofs.Toml.Quoting
import EdgeReveal.Proofs.Toml.Scalars
import EdgeReveal.Toml.Reader

/-!
# Written documents are read back

A document of tables is written as a header for each and a line for each of its
entries. It is read line by line, and the lines are put together to the same
tables, if no table has a key twice and no two tables have the same name.
-/
namespace EdgeReveal.Toml

section Values

/-! ## Values at the end of a line -/

variable {written : List Char} {value : Value}

/-- At the end of a line, and behind blanks, this is read as a value. -/
def ReadsAs (written : List Char) (value : Value) : Prop :=
  ∀ fuel depth rest,
    value? (fuel + 1) depth (skipSpace (written ++ '\n' :: rest)) = some (value, '\n' :: rest)

theorem skipSpace_of_not_isSpace {c : Char} (rest : List Char) (dark : isSpace c = false) :
    skipSpace (c :: rest) = c :: rest := by simp [skipSpace, dark]

theorem value?_quoted {quote : Char} (quoted : quote = '"' ∨ quote = '\'') (fuel depth : Nat)
    (rest : List Char) :
    value? (fuel + 1) depth (quote :: rest) =
      (string? (quote :: rest)).map fun (chars, rest) => (.text (String.ofList chars), rest) := by
  obtain rfl | rfl := quoted <;> rw [value?]

theorem writeString_head (text : List Char) :
    ∃ quote more, writeString text = quote :: more ∧ (quote = '"' ∨ quote = '\'') := by
  cases chosen : style text <;> simp [writeString, chosen]

theorem readsAs_string (text : String) : ReadsAs (writeString text.toList) (.text text) := by
  intro fuel depth rest
  have read := string?_writeString text.toList rest
  obtain ⟨quote, more, head, quoted⟩ := writeString_head text.toList
  have dark : isSpace quote = false := by obtain rfl | rfl := quoted <;> rfl
  rw [head, List.cons_append] at read ⊢
  rw [skipSpace_of_not_isSpace _ dark, value?_quoted quoted, read]
  simp

theorem ne_of_isBareKey {c d : Char} (bare : isBareKey c = true) (special : isBareKey d = false) :
    c ≠ d := by
  rintro rfl
  exact Bool.eq_false_iff.mp special bare

theorem not_isSpace_of_isBareKey {c : Char} (bare : isBareKey c = true) : isSpace c = false := by
  have blank : c ≠ ' ' := ne_of_isBareKey bare rfl
  have tab : c ≠ '\t' := ne_of_isBareKey bare rfl
  simp [isSpace, blank, tab]

/-- What begins like a bare key is read as an unquoted value. -/
theorem readsAs_of_bare {c : Char} {more : List Char} (bare : isBareKey c = true)
    (inside : ∀ d ∈ c :: more, Scalar.endsToken d = false)
    (read : Scalar.value? (c :: more) = some value) : ReadsAs (c :: more) value := by
  intro fuel depth rest
  rw [List.cons_append, skipSpace_of_not_isSpace _ (not_isSpace_of_isBareKey bare), value?]
  · exact Scalar.read?_token inside read
  all_goals
    intro _ same
    exact ne_of_isBareKey bare rfl (List.cons.inj same).1

theorem readsAs_number (n : Nat) : ReadsAs (Nat.toDigits 10 n) (.integer n) := by
  have digits {c : Char} (mem : c ∈ Nat.toDigits 10 n) := Text.isDigit_of_mem_toDigits mem
  have read := Scalar.value?_toDigits n
  cases written : Nat.toDigits 10 n with
  | nil => exact absurd written Nat.toDigits_ne_nil
  | cons c more =>
    rw [written] at digits read
    have bare : isBareKey c = true := by simp [isBareKey, digits (.head _)]
    exact readsAs_of_bare bare (fun _ mem => Scalar.endsToken_of_isDigit (digits mem)) read

theorem readsAs_boolean (b : Bool) :
    ReadsAs (if b then "true".toList else "false".toList) (.boolean b) := by
  have read := Scalar.value?_boolean b
  have no : ∀ d ∈ ['f', 'a', 'l', 's', 'e'], Scalar.endsToken d = false := by
    simp [Scalar.endsToken]
  have yes : ∀ d ∈ ['t', 'r', 'u', 'e'], Scalar.endsToken d = false := by simp [Scalar.endsToken]
  cases b with
  | false => exact readsAs_of_bare rfl no read
  | true => exact readsAs_of_bare rfl yes read

end Values

section Lines

/-! ## From characters to lines -/

variable {key : String} {written : List Char} {value : Value}

/-- A key that needs no quotes. -/
def IsBare (key : String) : Prop := key.toList ≠ [] ∧ key.toList.all isBareKey = true

instance (key : String) : Decidable (IsBare key) := inferInstanceAs (Decidable (_ ∧ _))

theorem name?_bare (bare : IsBare key) {c : Char} (ends : isBareKey c = false)
    (rest : List Char) : name? (key.toList ++ c :: rest) = some (key, c :: rest) := by
  have all : ∀ d ∈ key.toList, isBareKey d = true := List.all_eq_true.mp bare.2
  have front : (key.toList ++ c :: rest).takeWhile isBareKey = key.toList := by
    simp [List.takeWhile_append_of_pos all, ends]
  have back : (key.toList ++ c :: rest).dropWhile isBareKey = c :: rest := by
    simp [List.dropWhile_append_of_pos all, ends]
  simp [name?, front, back, bare.1]

theorem IsBare.head (bare : IsBare key) :
    ∃ k more, key.toList = k :: more ∧ isBareKey k = true := by
  obtain ⟨nonempty, all⟩ := bare
  cases chars : key.toList with
  | nil => exact absurd chars nonempty
  | cons k more =>
    rw [chars, List.all_cons, Bool.and_eq_true] at all
    exact ⟨k, more, rfl, all.1⟩

theorem skipSpace_bare (bare : IsBare key) (rest : List Char) :
    skipSpace (key.toList ++ rest) = key.toList ++ rest := by
  obtain ⟨k, more, chars, first⟩ := bare.head
  rw [chars]
  exact skipSpace_of_not_isSpace _ (not_isSpace_of_isBareKey first)

theorem path?_bare (bare : IsBare key) (fuel : Nat) {c d : Char} (ends : isBareKey c = false)
    (more rest : List Char) (behind : skipSpace (c :: more) = d :: rest) (last : d ≠ '.') :
    path? (fuel + 1) (key.toList ++ c :: more) = some ([key], d :: rest) := by
  simp [path?, skipSpace_bare bare, name?_bare bare ends, behind, last]

theorem lineEnd?_newline (rest : List Char) : lineEnd? ('\n' :: rest) = some rest := by
  simp [lineEnd?, skipSpace_of_not_isSpace, isSpace, newline?]

theorem pair?_written (bare : IsBare key) (reads : ReadsAs written value) (fuel depth : Nat)
    (rest : List Char) :
    pair? (fuel + 2) depth (key.toList ++ ' ' :: '=' :: ' ' :: (written ++ '\n' :: rest)) =
      some (⟨[key], value⟩, '\n' :: rest) := by
  -- The blank behind the key is skipped with the key, the one before the value with the value.
  have path := path?_bare bare (fuel + 1) (c := ' ') rfl ('=' :: ' ' :: (written ++ '\n' :: rest))
    (' ' :: (written ++ '\n' :: rest)) rfl (by decide)
  have value : value? (fuel + 1) depth (skipSpace (' ' :: (written ++ '\n' :: rest))) = _ :=
    reads fuel depth rest
  simp [pair?, path, value]

theorem line?_pair (bare : IsBare key) (reads : ReadsAs written value) (fuel : Nat)
    (rest : List Char) :
    line? (fuel + 2) (key.toList ++ ' ' :: '=' :: ' ' :: (written ++ '\n' :: rest)) =
      some (.pair ⟨[key], value⟩, rest) := by
  have pair := pair?_written bare reads fuel maxNesting rest
  obtain ⟨k, more, chars, first⟩ := bare.head
  have bracket : k ≠ '[' := ne_of_isBareKey first rfl
  rw [chars, List.cons_append] at pair ⊢
  simp [line?, bracket, pair, lineEnd?_newline]

theorem line?_header (bare : IsBare key) (fuel : Nat) (rest : List Char) :
    line? (fuel + 1) ('[' :: (key.toList ++ ']' :: '\n' :: rest)) =
      some (.header [key], rest) := by
  have path := path?_bare bare fuel (c := ']') rfl ('\n' :: rest) ('\n' :: rest) rfl (by decide)
  obtain ⟨k, more, chars, first⟩ := bare.head
  have bracket : k ≠ '[' := ne_of_isBareKey first rfl
  rw [chars, List.cons_append] at path ⊢
  simp [line?, bracket, path, lineEnd?_newline]

/-- Whatever stands behind it, a text is read as these lines. It takes no more rounds than it
has characters, so the fuel of `parse?` is enough. -/
def Prints (written : List Char) (lines : List Line) : Prop :=
  ∃ rounds ≤ written.length, ∀ fuel rest,
    lines? (fuel + 1 + rounds) (written ++ rest) = (lines? (fuel + 1) rest).map (lines ++ ·)

theorem prints_nil : Prints [] [] := ⟨0, Nat.le_refl 0, by simp⟩

theorem Prints.append {front back : List Char} {first others : List Line}
    (ahead : Prints front first) (behind : Prints back others) :
    Prints (front ++ back) (first ++ others) := by
  obtain ⟨m, short, ahead⟩ := ahead
  obtain ⟨n, short', behind⟩ := behind
  refine ⟨n + m, by simp; omega, fun fuel rest => ?_⟩
  -- The fuel that the first text leaves is what the second one needs.
  rw [List.append_assoc, (by omega : fuel + 1 + (n + m) = fuel + n + 1 + m), ahead,
    (by omega : fuel + n + 1 = fuel + 1 + n), behind]
  simp [Function.comp_def]

theorem prints_blank : Prints ['\n'] [] := by
  refine ⟨1, Nat.le_refl 1, fun fuel rest => ?_⟩
  simp [lines?, skipSpace_of_not_isSpace, isSpace, startsLine, lineEnd?_newline]

theorem prints_line {c : Char} {more : List Char} {line : Line} (dark : isSpace c = false)
    (comment : c ≠ '#') (newline : c ≠ '\n') (carriage : c ≠ '\r')
    (read : ∀ fuel rest, line? (fuel + 2) (c :: (more ++ rest)) = some (line, rest)) :
    Prints (c :: more) [line] := by
  refine ⟨1, by simp, fun fuel rest => ?_⟩
  have starts : startsLine (c :: (more ++ rest)) = false := by simp [startsLine, newline, carriage]
  rw [lines?, List.cons_append, skipSpace_of_not_isSpace _ dark]
  simp only [comment, starts, read, false_or, Bool.false_eq_true, if_false]
  cases behind : lines? (fuel + 1) rest <;> simp [behind]

theorem prints_pair (bare : IsBare key) (reads : ReadsAs written value) :
    Prints (key.toList ++ ' ' :: '=' :: ' ' :: (written ++ ['\n'])) [.pair ⟨[key], value⟩] := by
  have read := line?_pair bare reads
  obtain ⟨k, more, chars, first⟩ := bare.head
  have other {d : Char} (special : isBareKey d = false) : k ≠ d := ne_of_isBareKey first special
  rw [chars] at read ⊢
  refine prints_line (not_isSpace_of_isBareKey first) (other rfl) (other rfl) (other rfl) ?_
  intro fuel rest
  simpa using read fuel rest

theorem prints_header (bare : IsBare key) :
    Prints ('[' :: (key.toList ++ [']', '\n'])) [.header [key]] := by
  refine prints_line rfl (by decide) (by decide) (by decide) fun fuel rest => ?_
  simpa using line?_header bare (fuel + 1) rest

theorem parse?_of_prints {text : String} {lines : List Line}
    (unmarked : skipMark text.toList = text.toList) (prints : Prints text.toList lines) :
    parse? text = ofLines lines := by
  obtain ⟨rounds, short, read⟩ := prints
  -- One round is left for the end of the text.
  have all : lines? (2 * text.length + 2) text.toList = some lines := by
    have enough := read (2 * text.length + 1 - rounds) []
    rw [String.length_toList] at short
    have fuel : 2 * text.length + 1 - rounds + 1 + rounds = 2 * text.length + 2 := by omega
    rw [List.append_nil, fuel] at enough
    simpa [lines?, skipSpace] using enough
  simp [parse?, unmarked, all]

end Lines

section Tables

/-! ## From lines to tables -/

/-- An entry as it is written, with a key that is not dotted. -/
def pairOf (entry : String × Value) : Pair := ⟨[entry.1], entry.2⟩

def pairLines (entries : Entries) : List Line := entries.map fun entry => .pair (pairOf entry)

theorem pairLines_append (first others : Entries) :
    pairLines (first ++ others) = pairLines first ++ pairLines others := List.map_append

def tableLines (table : String × Entries) : List Line := .header [table.1] :: pairLines table.2

theorem prints_table {name : String} {written : List Char} {entries : Entries}
    (bare : IsBare name) (body : Prints written (pairLines entries)) :
    Prints ('[' :: (name.toList ++ ']' :: '\n' :: written)) (tableLines (name, entries)) := by
  simpa [tableLines] using (prints_header bare).append body

def keys (entries : Entries) : List String := entries.map (·.1)

theorem find?_eq_none {entries : Entries} {key : String} (absent : key ∉ keys entries) :
    find? entries key = none := by
  simp only [find?, Option.map_eq_none_iff, List.find?_eq_none, beq_iff_eq]
  intro entry mem same
  exact absent (List.mem_map.mpr ⟨entry, mem, same⟩)

theorem not_mem_of_nodup {before entries : Entries} {entry : String × Value}
    (distinct : (keys (before ++ entry :: entries)).Nodup) : entry.1 ∉ keys before := by
  intro mem
  simp only [keys, List.map_append, List.map_cons, List.nodup_append] at distinct
  exact distinct.2.2 _ mem _ (.head _) rfl

/-- Pairs with new keys are added behind those that are there. -/
theorem addPairs_entries (before : Entries) {entries : Entries}
    (distinct : (keys (before ++ entries)).Nodup) :
    addPairs before (entries.map pairOf) = some (before ++ entries) := by
  induction entries generalizing before with
  | nil => simp [addPairs]
  | cons entry entries ih =>
    have added : addPair entry.2 [entry.1] none before = some (before ++ [entry]) := by
      simp [addPair, find?_eq_none (not_mem_of_nodup distinct)]
    rw [List.append_cons] at distinct ⊢
    simpa [addPairs, pairOf, added] using ih _ distinct

theorem sections_pairs (entries : Entries) (lines : List Line) :
    sections (pairLines entries ++ lines) =
      ({ (sections lines).1 with pairs := entries.map pairOf ++ (sections lines).1.pairs },
        (sections lines).2) := by
  induction entries with
  | nil => rfl
  | cons entry entries ih =>
    rw [pairLines, List.map_cons, ← pairLines, List.cons_append, sections, ih]
    rfl

def tableSection (table : String × Entries) : Section := ⟨.table [table.1], table.2.map pairOf⟩

theorem sections_tables (tables : List (String × Entries)) :
    sections (tables.flatMap tableLines) =
      (⟨.root, []⟩, tables.map tableSection) := by
  induction tables with
  | nil => rfl
  | cons table tables ih => simp [tableLines, tableSection, sections, sections_pairs, ih]

/-- The table as an entry of the document. -/
def asEntry (table : String × Entries) : String × Value := (table.1, .table .header table.2)

theorem addSection_table {before : Entries} {table : String × Entries}
    (absent : table.1 ∉ keys before) (distinct : (keys table.2).Nodup) :
    addSection before (tableSection table) = some (before ++ [asEntry table]) := by
  have pairs := addPairs_entries [] distinct
  simp [addSection, tableSection, addBelow, addTable, find?_eq_none absent, pairs, asEntry]

/-- Tables with new names are added behind those that are there. -/
theorem addSections_tables (before : Entries) {tables : List (String × Entries)}
    (names : (keys (before ++ tables.map asEntry)).Nodup)
    (distinct : ∀ table ∈ tables, (keys table.2).Nodup) :
    (tables.map tableSection).foldlM addSection before = some (before ++ tables.map asEntry) := by
  induction tables generalizing before with
  | nil => simp
  | cons table tables ih =>
    simp only [List.mem_cons, forall_eq_or_imp] at distinct
    have added := addSection_table (not_mem_of_nodup names) distinct.1
    rw [List.map_cons, List.append_cons] at names
    simpa [added] using ih _ names distinct.2

/-- The document has the tables, and nothing stands before the first header. -/
theorem ofLines_tables {tables : List (String × Entries)}
    (names : (keys (tables.map asEntry)).Nodup)
    (distinct : ∀ table ∈ tables, (keys table.2).Nodup) :
    ofLines (tables.flatMap tableLines) = some (tables.map asEntry) := by
  simpa [ofLines, sections_tables, addSection, addPairs] using
    addSections_tables [] names distinct

end Tables

end EdgeReveal.Toml
