import EdgeReveal.Proofs.Toml.Adding

/-!
# One document in several spellings

The tables of a document may be written under headers, by dotted keys or in braces, their keys in
any order and next to each other or not. A document of tables has the tables that one of its
sections names, and a key of a table has the value that some pair gives it; so two spellings that
name the same tables and give the same values are documents with the same content.
-/
namespace EdgeReveal.Toml

section Content

/-! ## What a document says -/

/-- The value of a key in a table of a document. -/
def valueAt (document : Entries) (table key : String) : Option Value :=
  match find? document table with
  | some (.table _ entries) => find? entries key
  | _ => none

/-- Two documents have the same keys, and their tables have the same keys with the same values,
in whatever order and however the tables came about. -/
structure Agree (one other : Entries) : Prop where
  names : ∀ name, (find? one name).isSome = (find? other name).isSome
  values : ∀ table key, valueAt one table key = valueAt other table key

theorem Agree.symm {one other : Entries} (agree : Agree one other) : Agree other one :=
  ⟨fun name => (agree.names name).symm, fun table key => (agree.values table key).symm⟩

/-- All values of a document are tables. -/
def OfTables (document : Entries) : Prop :=
  ∀ name value, find? document name = some value → ∃ origin entries, value = .table origin entries

theorem valueAt_of_table {document entries : Entries} {table : String} {origin : Origin}
    (present : find? document table = some (.table origin entries)) (key : String) :
    valueAt document table key = find? entries key := by simp only [valueAt, present]

theorem valueAt_of_absent {document : Entries} {table : String}
    (absent : find? document table = none) (key : String) : valueAt document table key = none := by
  simp only [valueAt, absent]

end Content

section Spelling

/-! ## What the sections of its text say -/

/-- The sections of a text; what stands before any header is the first. -/
def sectionsOf? (text : String) : Option (List Section) :=
  (lines? (2 * text.length + 2) (skipMark text.toList)).map fun lines =>
    (sections lines).1 :: (sections lines).2

theorem parse?_eq (text : String) :
    parse? text = (sectionsOf? text).bind fun sections => sections.foldlM addSection [] := by
  rw [sectionsOf?, Option.bind_map]
  rfl

/-- A pair that stands below a target gives a key of a table its value: under the header of the
table, by a dotted key before all headers, or among others in braces. -/
inductive Gives (table key : String) (value : Value) : Target → Pair → Prop
  | header : Gives table key value (.table [table]) ⟨[key], value⟩
  | dotted : Gives table key value .root ⟨[table, key], value⟩
  | inline {entries : Entries} (found : find? entries key = some value) :
    Gives table key value .root ⟨[table], .table .inline entries⟩

/-- A section names a table by its header or in a pair that stands before all headers. -/
inductive Names (table : String) : Section → Prop
  | header {pairs : List Pair} : Names table ⟨.table [table], pairs⟩
  | pair {pairs : List Pair} {pair : Pair} {rest : List String} (mem : pair ∈ pairs)
    (path : pair.path = table :: rest) : Names table ⟨.root, pairs⟩

section

variable {table name key other : String} {value new : Value} {path : List String}
  {pairs : List Pair} {entries : Entries} {pair : Pair}

@[simp] theorem gives_header_iff :
    Gives name key value (.table [table]) pair ↔ name = table ∧ pair = ⟨[key], value⟩ := by
  constructor
  · intro gives
    cases gives
    exact ⟨rfl, rfl⟩
  · rintro ⟨rfl, rfl⟩
    exact .header

@[simp] theorem gives_dotted_iff :
    Gives name other new .root ⟨[table, key], value⟩ ↔
      name = table ∧ other = key ∧ new = value := by
  constructor
  · intro gives
    cases gives
    exact ⟨rfl, rfl, rfl⟩
  · rintro ⟨rfl, rfl, rfl⟩
    exact .dotted

@[simp] theorem gives_inline_iff :
    Gives name key value .root ⟨[table], .table .inline entries⟩ ↔
      name = table ∧ find? entries key = some value := by
  constructor
  · intro gives
    cases gives
    exact ⟨rfl, ‹_›⟩
  · rintro ⟨rfl, found⟩
    exact .inline found

@[simp] theorem names_header_iff : Names name ⟨.table path, pairs⟩ ↔ path = [name] := by
  constructor
  · intro named
    cases named
    rfl
  · rintro rfl
    exact .header

@[simp] theorem names_root_iff :
    Names name ⟨.root, pairs⟩ ↔ ∃ pair ∈ pairs, ∃ rest, pair.path = name :: rest := by
  constructor
  · intro named
    cases named with
    | pair mem path => exact ⟨_, mem, _, path⟩
  · rintro ⟨pair, mem, rest, path⟩
    exact .pair mem path

end

/-- A pair in one of the three spellings of a table's key. -/
inductive Plain : Target → Pair → Prop
  | header {table key : String} {value : Value} : Plain (.table [table]) ⟨[key], value⟩
  | dotted {table key : String} {value : Value} : Plain .root ⟨[table, key], value⟩
  | inline {table : String} {entries : Entries} : Plain .root ⟨[table], .table .inline entries⟩

/-- A section that only spells tables. -/
structure Spells (s : Section) : Prop where
  target : s.target = .root ∨ ∃ table, s.target = .table [table]
  pairs : ∀ pair ∈ s.pairs, Plain s.target pair

/-- A text that only spells tables, in these sections. -/
structure SpelledBy (text : String) (sections : List Section) : Prop where
  written : sectionsOf? text = some sections
  spells : ∀ s ∈ sections, Spells s

/-- Sections that name the same tables and give their keys the same values. -/
structure Interchangeable (one other : List Section) : Prop where
  names : ∀ name, (∃ s ∈ one, Names name s) ↔ ∃ s ∈ other, Names name s
  values : ∀ table key value,
    (∃ s ∈ one, ∃ pair ∈ s.pairs, Gives table key value s.target pair) ↔
      ∃ s ∈ other, ∃ pair ∈ s.pairs, Gives table key value s.target pair

end Spelling

section Extending

/-! ## What a section adds to a document -/

variable {document next : Entries} {names : String → Prop}
  {gives : String → String → Value → Prop} {table : String} {pairs : List Pair}

/-- A document of tables is extended by the tables that are named and the values that are
given. -/
structure Extends (names : String → Prop) (gives : String → String → Value → Prop)
    (document next : Entries) : Prop where
  tables : OfTables next
  names : ∀ name, (find? next name).isSome ↔ (find? document name).isSome ∨ names name
  values : ∀ table key value,
    valueAt next table key = some value ↔
      valueAt document table key = some value ∨ gives table key value

theorem Extends.congr {named : String → Prop} {given : String → String → Value → Prop}
    (extended : Extends names gives document next) (sameNames : ∀ name, names name ↔ named name)
    (sameValues : ∀ table key value, gives table key value ↔ given table key value) :
    Extends named given document next where
  tables := extended.tables
  names name := by rw [extended.names, sameNames]
  values table key value := by rw [extended.values, sameValues]

/-- What is named and given by any one of the things added is named and given in the end. -/
theorem extends_foldlM {α : Type} {names : α → String → Prop}
    {gives : α → String → String → Value → Prop} {add : Entries → α → Option Entries}
    {list : List α}
    (step : ∀ x ∈ list, ∀ before after, OfTables before → add before x = some after →
      Extends (names x) (gives x) before after)
    (tables : OfTables document) (run : list.foldlM add document = some next) :
    Extends (fun name => ∃ x ∈ list, names x name)
      (fun table key value => ∃ x ∈ list, gives x table key value) document next := by
  induction list generalizing document with
  | nil =>
    cases run
    exact ⟨tables, by simp, by simp⟩
  | cons x list ih =>
    rw [List.foldlM_cons] at run
    obtain ⟨middle, added, run⟩ := Option.bind_eq_some_iff.mp run
    have first := step x (.head list) document middle tables added
    have others := ih (fun y mem => step y (.tail x mem)) first.tables run
    refine ⟨others.tables, fun name => ?_, fun table key value => ?_⟩
    · rw [others.names, first.names, List.exists_mem_cons_iff, or_assoc]
    · rw [others.values, first.values, List.exists_mem_cons_iff, or_assoc]

/-- One table gets values beside those that it has. -/
theorem extends_of_puts {origin : Origin} {entries : Entries} {given : String → Value → Prop}
    (tables : OfTables document) (puts : Puts document table (.table origin entries) next)
    (values : ∀ key value,
      find? entries key = some value ↔ valueAt document table key = some value ∨ given key value) :
    Extends (· = table) (fun name key value => name = table ∧ given key value) document next where
  tables name value found := by
    rw [puts.find?] at found
    split at found
    · cases found
      exact ⟨origin, entries, rfl⟩
    · exact tables name value found
  names name := by
    rw [puts.find?]
    split <;> simp [*]
  values name key value := by
    by_cases here : name = table
    · -- Under the name stands the new table, under any other name what stood there.
      have present := puts.find? table
      rw [if_pos rfl] at present
      rw [here, valueAt_of_table present, values]
      simp
    · have same : find? next name = find? document name := by simp [puts.find?, here]
      simp [valueAt, same, here]

/-- The table under a name gets values beside those that it has. -/
theorem extends_of_stepsAt {add : Entries → Entries → Prop} {given : String → Value → Prop}
    (tables : OfTables document) (steps : StepsAt add document table next)
    (adds : ∀ inner after, add inner after → ∀ key value,
      find? after key = some value ↔ find? inner key = some value ∨ given key value) :
    Extends (· = table) (fun name key value => name = table ∧ given key value) document next := by
  obtain ⟨new, puts, step⟩ := steps
  generalize present : find? document table = old at step
  cases step with
  | opens added =>
    refine extends_of_puts tables puts fun key value => ?_
    rw [valueAt_of_absent present, adds _ _ added]
    rfl
  | enters added =>
    refine extends_of_puts tables puts fun key value => ?_
    rw [valueAt_of_table present, adds _ _ added]
  | row =>
    -- All that is there is a table, so nothing goes through a row of tables.
    obtain ⟨origin, entries, impossible⟩ := tables table _ present
    cases impossible

/-- A key of one name is new and gets the value. -/
theorem addPair_value {key : String} {value : Value} {parent : Option Origin}
    {inner after : Entries} (added : addPair value [key] parent inner = some after) (other : String)
    (new : Value) :
    find? after other = some new ↔ find? inner other = some new ∨ other = key ∧ new = value := by
  obtain ⟨last, same, absent, rfl⟩ | ⟨first, rest, same, longer, -⟩ := addPair_cases added
  · cases same
    rw [(Puts.behind absent).find?]
    by_cases here : other = key
    · simp [here, absent, eq_comm]
    · simp [here]
  · cases same
    contradiction

/-- Pairs of one name each add their values. -/
theorem addPairs_values {inner after : Entries} (each : ∀ pair ∈ pairs, ∃ key, pair.path = [key])
    (added : addPairs inner pairs = some after) (key : String) (value : Value) :
    find? after key = some value ↔ find? inner key = some value ∨ ⟨[key], value⟩ ∈ pairs := by
  induction pairs generalizing inner with
  | nil =>
    cases added
    simp
  | cons pair pairs ih =>
    rw [addPairs, List.foldlM_cons] at added
    -- The pairs behind the first one are added to a table that has its value.
    obtain ⟨middle, first, others⟩ := Option.bind_eq_some_iff.mp added
    obtain ⟨name, path⟩ := each pair (.head pairs)
    obtain ⟨_, given⟩ := pair
    cases path
    rw [ih (fun pair mem => each pair (.tail _ mem)) others, addPair_value first, List.mem_cons]
    simp [or_assoc]

/-- A pair before all headers names its table and gives what it holds. -/
theorem extends_pair {pair : Pair} (plain : Plain .root pair) (tables : OfTables document)
    (added : addPair pair.value pair.path none document = some next) :
    Extends (fun name => ∃ rest, pair.path = name :: rest)
      (fun table key value => Gives table key value .root pair) document next := by
  obtain ⟨path, value⟩ := pair
  cases plain with
  | @dotted table key =>
    obtain ⟨_, same, -⟩ | ⟨_, _, same, -, steps⟩ := addPair_cases added
    · cases same
    cases same
    -- Below the first name of the key, the second one is that of a pair of its own.
    have adds : ∀ inner after, (∃ parent, addPair value [key] parent inner = some after) →
        ∀ other new, find? after other = some new ↔
          find? inner other = some new ∨ other = key ∧ new = value :=
      fun _ _ ⟨_, below⟩ => addPair_value below
    exact (extends_of_stepsAt tables steps adds).congr (by simp [eq_comm]) (by simp)
  | @inline table entries =>
    -- A pair of one name is the last of its table, so the name is new to the document.
    obtain ⟨_, same, absent, rfl⟩ | ⟨_, _, same, longer, -⟩ := addPair_cases added
    · cases same
      have puts : Puts document table (.table .inline entries) _ := .behind absent
      have held : ∀ key value, find? entries key = some value ↔
          valueAt document table key = some value ∨ find? entries key = some value := by
        simp [valueAt_of_absent absent]
      exact (extends_of_puts tables puts held).congr (by simp [eq_comm]) (by simp)
    · cases same
      contradiction

theorem extends_root (plain : ∀ pair ∈ pairs, Plain .root pair) (tables : OfTables document)
    (added : addPairs document pairs = some next) :
    Extends (fun name => Names name ⟨.root, pairs⟩)
      (fun table key value => ∃ pair ∈ pairs, Gives table key value .root pair) document next := by
  have each : Extends (fun name => ∃ pair ∈ pairs, ∃ rest, pair.path = name :: rest)
      (fun table key value => ∃ pair ∈ pairs, Gives table key value .root pair) document next := by
    refine extends_foldlM ?_ tables added
    exact fun pair mem _ _ => extends_pair (plain pair mem)
  exact each.congr (by simp) (by simp)

theorem extends_header (plain : ∀ pair ∈ pairs, Plain (.table [table]) pair)
    (tables : OfTables document) (added : addTable pairs table document = some next) :
    Extends (fun name => Names name ⟨.table [table], pairs⟩)
      (fun name key value => ∃ pair ∈ pairs, Gives name key value (.table [table]) pair)
      document next := by
  -- Under a header a key is a single name; dotted keys stand before all headers only.
  have each : ∀ pair ∈ pairs, ∃ key, pair.path = [key] := by
    intro pair mem
    cases plain pair mem
    exact ⟨_, rfl⟩
  have extended := extends_of_stepsAt tables (addTable_steps added) fun _ _ => addPairs_values each
  exact extended.congr (by simp [eq_comm]) (by simp [and_comm])

theorem extends_section {s : Section} (spells : Spells s) (tables : OfTables document)
    (added : addSection document s = some next) :
    Extends (fun name => Names name s)
      (fun table key value => ∃ pair ∈ s.pairs, Gives table key value s.target pair)
      document next := by
  obtain ⟨target, pairs⟩ := s
  obtain ⟨rfl | ⟨table, rfl⟩, plain⟩ := spells
  · exact extends_root plain tables added
  · exact extends_header plain tables added

end Extending

section Documents

/-! ## What the document says -/

variable {text other : String} {sections others : List Section} {document another : Entries}

/-- The document has the tables that the text names, and their keys have the values that the
text gives. -/
theorem document_of_spelledBy (spelled : SpelledBy text sections)
    (read : parse? text = some document) :
    OfTables document ∧
      (∀ name, (find? document name).isSome ↔ ∃ s ∈ sections, Names name s) ∧
      ∀ table key value, valueAt document table key = some value ↔
        ∃ s ∈ sections, ∃ pair ∈ s.pairs, Gives table key value s.target pair := by
  rw [parse?_eq, spelled.written] at read
  have empty : OfTables [] := by simp [OfTables]
  have whole : Extends (fun name => ∃ s ∈ sections, Names name s)
      (fun table key value => ∃ s ∈ sections, ∃ pair ∈ s.pairs, Gives table key value s.target pair)
      [] document := by
    refine extends_foldlM ?_ empty read
    exact fun s mem _ _ => extends_section (spelled.spells s mem)
  refine ⟨whole.tables, fun name => ?_, fun table key value => ?_⟩
  · simpa using whole.names name
  · simpa [valueAt] using whole.values table key value

/-- Two texts that say the same have the same document, whichever spellings they use. -/
theorem agree_of_interchangeable (spelled : SpelledBy text sections)
    (read : parse? text = some document) (spelled' : SpelledBy other others)
    (read' : parse? other = some another) (same : Interchangeable sections others) :
    Agree document another := by
  obtain ⟨-, names, values⟩ := document_of_spelledBy spelled read
  obtain ⟨-, names', values'⟩ := document_of_spelledBy spelled' read'
  refine ⟨fun name => ?_, fun table key => Option.ext fun value => ?_⟩
  · rw [Bool.eq_iff_iff, names, names', same.names]
  · rw [values, values', same.values]

end Documents

end EdgeReveal.Toml
