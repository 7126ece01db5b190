import EdgeReveal.Proofs.Toml.Documents
import Mathlib

/-!
# What adding to a table does

Whatever is added to a table, one of its keys gets a value: a new key behind the others, or a key
that is there has its value replaced. The steps below say what becomes of the value that was
there. No key is doubled on the way, so a document that is read has each of its keys once.
-/
namespace EdgeReveal.Toml

section Putting

/-! ## One key gets a value -/

variable {entries others next : Entries} {key other : String} {value : Value}

@[simp] theorem find?_nil (key : String) : find? [] key = none := rfl

theorem find?_cons (entry : String × Value) (entries : Entries) (key : String) :
    find? (entry :: entries) key = if entry.1 = key then some entry.2 else find? entries key := by
  by_cases same : entry.1 = key <;> simp [find?, same]

theorem find?_append (entries others : Entries) (key : String) :
    find? (entries ++ others) key = (find? entries key).or (find? others key) := by
  rw [find?, List.find?_append, Option.map_or]
  rfl

theorem find?_eq_none_iff : find? entries key = none ↔ key ∉ keys entries := by
  refine ⟨fun absent mem => ?_, find?_eq_none⟩
  obtain ⟨entry, mem, same⟩ := List.mem_map.mp mem
  rw [find?, Option.map_eq_none_iff, List.find?_eq_none] at absent
  exact absent entry mem (by simpa using same)

/-- Among elements with different names, the one of a name is found. -/
theorem find?_name_eq_some_iff {α : Type} {name : α → String} {list : List α} {found : α}
    (distinct : (list.map name).Nodup) :
    list.find? (name · == key) = some found ↔ found ∈ list ∧ name found = key := by
  constructor
  · intro same
    exact ⟨List.mem_of_find?_eq_some same, by simpa using List.find?_some same⟩
  · rintro ⟨mem, rfl⟩
    -- Something of the name is found, and names tell the elements apart.
    have exists_ : (list.find? (name · == name found)).isSome :=
      List.find?_isSome.mpr ⟨found, mem, by simp⟩
    obtain ⟨first, same⟩ := Option.isSome_iff_exists.mp exists_
    have alike : name first = name found := by simpa using List.find?_some same
    rw [same, List.inj_on_of_nodup_map distinct (List.mem_of_find?_eq_some same) mem alike]

/-- If no key is there twice, a key has the value that stands beside it. -/
theorem find?_eq_some_iff (distinct : (keys entries).Nodup) :
    find? entries key = some value ↔ (key, value) ∈ entries := by
  simp only [find?, Option.map_eq_some_iff, find?_name_eq_some_iff distinct]
  constructor
  · rintro ⟨entry, ⟨mem, rfl⟩, rfl⟩
    exact mem
  · intro mem
    exact ⟨_, ⟨mem, rfl⟩, rfl⟩

theorem find?_replace (entries : Entries) (key other : String) (value : Value) :
    find? (replace entries key value) other =
      if other = key then (find? entries key).map fun _ => value else find? entries other := by
  induction entries with
  | nil => simp [replace]
  | cons entry entries ih =>
    rw [replace, List.map_cons, ← replace, find?_cons, find?_cons, find?_cons, ih]
    by_cases same : entry.1 = key
    · by_cases here : other = key
      · simp [same, here]
      · simp [same, here, Ne.symm here]
    · by_cases here : other = key
      · simp [same, here]
      · simp [same, here]

theorem keys_replace (entries : Entries) (key : String) (value : Value) :
    keys (replace entries key value) = keys entries := by
  rw [keys, replace, List.map_map]
  refine List.map_congr_left fun entry _ => ?_
  by_cases same : entry.1 = key <;> simp [same]

/-- A key of a table gets a value. -/
inductive Puts (entries : Entries) (key : String) (value : Value) : Entries → Prop
  | behind (absent : find? entries key = none) : Puts entries key value (entries ++ [(key, value)])
  | anew {old : Value} (present : find? entries key = some old) :
    Puts entries key value (replace entries key value)

theorem Puts.find? (puts : Puts entries key value next) (other : String) :
    find? next other = if other = key then some value else find? entries other := by
  cases puts with
  | behind absent =>
    rw [find?_append, find?_cons]
    by_cases here : other = key
    · simp [here, absent]
    · simp [here, Ne.symm here]
  | anew present => simp [find?_replace, present]

theorem Puts.nodup (puts : Puts entries key value next) (distinct : (keys entries).Nodup) :
    (keys next).Nodup := by
  cases puts with
  | behind absent =>
    have fresh := find?_eq_none_iff.mp absent
    rw [keys, List.map_append, List.map_singleton, ← List.concat_eq_append]
    exact List.Nodup.concat fresh distinct
  | anew present =>
    rw [keys_replace]
    exact distinct

end Putting

section Steps

/-! ## What becomes of the value that was there -/

variable {entries next : Entries} {value : Value} {key : String} {rest : List String}
  {pairs : List Pair} {add : Entries → Entries → Prop} {added : Option Entries}

/-- Something is added below a name: a table is begun or goes on, or a row of tables does. -/
inductive Step (add : Entries → Entries → Prop) : Option Value → Value → Prop
  | opens {origin : Origin} {inner : Entries} (added : add [] inner) :
    Step add none (.table origin inner)
  | enters {before after : Origin} {inner next : Entries} (added : add inner next) :
    Step add (some (.table before inner)) (.table after next)
  | row {items more : List Value} : Step add (some (.array true items)) (.array true more)

/-- One key of a table takes such a step. -/
def StepsAt (add : Entries → Entries → Prop) (entries : Entries) (key : String)
    (next : Entries) : Prop :=
  ∃ new, Puts entries key new next ∧ Step add (find? entries key) new

theorem stepsAt_opens {origin : Origin} (absent : find? entries key = none)
    (below : ∀ inner, added = some inner → add [] inner)
    (result : added.map (fun inner => entries ++ [(key, .table origin inner)]) = some next) :
    StepsAt add entries key next := by
  obtain ⟨inner, done, rfl⟩ := Option.map_eq_some_iff.mp result
  refine ⟨_, .behind absent, ?_⟩
  rw [absent]
  exact .opens (below inner done)

theorem stepsAt_enters {before after : Origin} {inner : Entries}
    (present : find? entries key = some (.table before inner))
    (below : ∀ next, added = some next → add inner next)
    (result : added.map (fun inner => replace entries key (.table after inner)) = some next) :
    StepsAt add entries key next := by
  obtain ⟨inner, done, rfl⟩ := Option.map_eq_some_iff.mp result
  refine ⟨_, .anew present, ?_⟩
  rw [present]
  exact .enters (below inner done)

theorem stepsAt_row {items : List Value} {extend : Entries → List Value}
    (present : find? entries key = some (.array true items))
    (result : added.map (fun inner => replace entries key (.array true (extend inner))) =
      some next) : StepsAt add entries key next := by
  obtain ⟨inner, -, rfl⟩ := Option.map_eq_some_iff.mp result
  refine ⟨_, .anew present, ?_⟩
  rw [present]
  exact .row

/-- A pair is the last of its table, or its dotted key goes through the table under the first
name. -/
theorem addPair_cases {path : List String} {parent : Option Origin}
    (pair : addPair value path parent entries = some next) :
    (∃ key, path = [key] ∧ find? entries key = none ∧ next = entries ++ [(key, value)]) ∨
      ∃ key rest, path = key :: rest ∧ rest ≠ [] ∧
        StepsAt (fun inner next => ∃ parent, addPair value rest parent inner = some next)
          entries key next := by
  match path with
  | [] => cases pair
  | [key] =>
    rw [addPair] at pair
    split at pair
    case isTrue free =>
      simp only [Bool.and_eq_true, Option.isNone_iff_eq_none] at free
      exact .inl ⟨key, rfl, free.2, (Option.some.inj pair).symm⟩
    case isFalse => cases pair
  | key :: name :: rest =>
    refine .inr ⟨key, name :: rest, rfl, List.cons_ne_nil name rest, ?_⟩
    rw [addPair] at pair
    on_goal 2 => exact List.cons_ne_nil name rest
    split at pair
    case h_1 absent => exact stepsAt_opens absent (fun _ below => ⟨_, below⟩) pair
    case h_2 present =>
      split at pair
      · cases pair
      · exact stepsAt_enters present (fun _ below => ⟨_, below⟩) pair
    case h_3 present =>
      split at pair
      · exact stepsAt_row present pair
      · cases pair
    case h_4 => cases pair

/-- The table of a header is new, or it was implied by the header of a table inside. -/
theorem addTable_steps (table : addTable pairs key entries = some next) :
    StepsAt (fun inner next => addPairs inner pairs = some next) entries key next := by
  rw [addTable] at table
  split at table
  case h_1 absent => exact stepsAt_opens absent (fun _ below => below) table
  case h_2 present => exact stepsAt_enters present (fun _ below => below) table
  case h_3 => cases table

theorem addRow_puts (row : addRow pairs key entries = some next) :
    ∃ items, Puts entries key (.array true items) next := by
  rw [addRow] at row
  split at row
  case h_1 absent =>
    obtain ⟨inner, -, rfl⟩ := Option.map_eq_some_iff.mp row
    exact ⟨_, .behind absent⟩
  case h_2 present =>
    obtain ⟨inner, -, rfl⟩ := Option.map_eq_some_iff.mp row
    exact ⟨_, .anew present⟩
  case h_3 => cases row

/-- A header ends at its table, or it goes through the table under its first name. -/
theorem addBelow_cases {path : List String} {last : String → Entries → Option Entries}
    (header : addBelow last path entries = some next) :
    (∃ key, path = [key] ∧ last key entries = some next) ∨
      ∃ key rest, path = key :: rest ∧ rest ≠ [] ∧
        StepsAt (fun inner next => addBelow last rest inner = some next) entries key next := by
  match path with
  | [] => cases header
  | [key] => exact .inl ⟨key, rfl, header⟩
  | key :: name :: rest =>
    refine .inr ⟨key, name :: rest, rfl, List.cons_ne_nil name rest, ?_⟩
    rw [addBelow] at header
    on_goal 2 => exact List.cons_ne_nil name rest
    split at header
    case h_1 absent => exact stepsAt_opens absent (fun _ below => below) header
    case h_2 present =>
      split at header
      · cases header
      · exact stepsAt_enters present (fun _ below => below) header
    case h_3 present =>
      split at header
      · exact stepsAt_row present header
      · cases header
    case h_4 => cases header

end Steps

section Distinct

/-! ## No key is doubled -/

variable {entries next : Entries} {value : Value} {key : String} {path : List String}
  {pairs : List Pair} {add : Entries → Entries → Prop}

/-- A value that has each of its keys once, if it is a table. -/
def Neat (value : Value) : Prop :=
  ∀ origin inner, value = .table origin inner → (keys inner).Nodup

/-- A table has each of its keys once, and so do the tables among its values. -/
structure Distinct (entries : Entries) : Prop where
  keys : (keys entries).Nodup
  inside : ∀ key value, find? entries key = some value → Neat value

theorem distinct_nil : Distinct [] := ⟨List.nodup_nil, by simp⟩

theorem Distinct.puts {new : Value} (distinct : Distinct entries)
    (puts : Puts entries key new next) (neat : Neat new) : Distinct next where
  keys := puts.nodup distinct.keys
  inside other value found := by
    rw [puts.find?] at found
    split at found
    · cases found
      exact neat
    · exact distinct.inside other value found

/-- Adding does not double a key. -/
def KeepsNodup (add : Entries → Entries → Prop) : Prop :=
  ∀ inner next, add inner next → (keys inner).Nodup → (keys next).Nodup

theorem StepsAt.nodup (steps : StepsAt add entries key next) (distinct : (keys entries).Nodup) :
    (keys next).Nodup := by
  obtain ⟨new, puts, -⟩ := steps
  exact puts.nodup distinct

theorem StepsAt.distinct (steps : StepsAt add entries key next) (kept : KeepsNodup add)
    (distinct : Distinct entries) : Distinct next := by
  obtain ⟨new, puts, step⟩ := steps
  refine distinct.puts puts fun origin inner table => ?_
  -- The new value is a table, so it was opened or entered and is no row.
  cases table
  generalize present : find? entries key = old at step
  cases step with
  | opens added => exact kept _ _ added List.nodup_nil
  | enters added => exact kept _ _ added (distinct.inside _ _ present _ _ rfl)

theorem foldlM_invariant {σ α : Type} {holds : σ → Prop} {add : σ → α → Option σ} {list : List α}
    (step : ∀ x ∈ list, ∀ before after, add before x = some after → holds before → holds after)
    {first last : σ} (run : list.foldlM add first = some last) (start : holds first) :
    holds last := by
  induction list generalizing first with
  | nil =>
    cases run
    exact start
  | cons x list ih =>
    rw [List.foldlM_cons] at run
    obtain ⟨next, added, run⟩ := Option.bind_eq_some_iff.mp run
    exact ih (fun y mem => step y (.tail x mem)) run (step x (.head list) first next added start)

theorem keepsNodup_addPair {parent : Option Origin} :
    KeepsNodup fun inner next => addPair value path parent inner = some next := by
  intro inner next added
  obtain ⟨key, -, absent, rfl⟩ | ⟨key, rest, -, -, steps⟩ := addPair_cases added
  · exact (Puts.behind absent).nodup
  · exact steps.nodup

theorem keepsNodup_addPairs : KeepsNodup fun inner next => addPairs inner pairs = some next :=
  fun _ _ added => foldlM_invariant (fun _ _ => keepsNodup_addPair) added

theorem keepsNodup_addBelow {last : String → Entries → Option Entries}
    (kept : ∀ key, KeepsNodup fun inner next => last key inner = some next) :
    KeepsNodup fun inner next => addBelow last path inner = some next := by
  intro inner next added
  obtain ⟨key, -, done⟩ | ⟨key, rest, -, -, steps⟩ := addBelow_cases added
  · exact kept key inner next done
  · exact steps.nodup

theorem addPair_distinct {parent : Option Origin} (neat : Neat value)
    (added : addPair value path parent entries = some next) (distinct : Distinct entries) :
    Distinct next := by
  obtain ⟨key, -, absent, rfl⟩ | ⟨key, rest, -, -, steps⟩ := addPair_cases added
  · exact distinct.puts (.behind absent) neat
  · refine steps.distinct (fun inner next below => ?_) distinct
    obtain ⟨parent, below⟩ := below
    exact keepsNodup_addPair _ _ below

theorem addBelow_distinct {last : String → Entries → Option Entries}
    (kept : ∀ key, KeepsNodup fun inner next => last key inner = some next)
    (ends : ∀ key, last key entries = some next → Distinct next)
    (added : addBelow last path entries = some next) (distinct : Distinct entries) :
    Distinct next := by
  obtain ⟨key, -, done⟩ | ⟨key, rest, -, -, steps⟩ := addBelow_cases added
  · exact ends key done
  · exact steps.distinct (keepsNodup_addBelow kept) distinct

theorem addSection_distinct {s : Section} (neat : ∀ pair ∈ s.pairs, Neat pair.value)
    (added : addSection entries s = some next) (distinct : Distinct entries) : Distinct next := by
  obtain ⟨target, pairs⟩ := s
  cases target with
  | root =>
    exact foldlM_invariant (fun pair mem _ _ => addPair_distinct (neat pair mem)) added distinct
  | table path =>
    refine addBelow_distinct (fun key inner next table => ?_) (fun key table => ?_) added distinct
    · exact (addTable_steps table).nodup
    · exact (addTable_steps table).distinct keepsNodup_addPairs distinct
  | row path =>
    refine addBelow_distinct (fun key inner next row => ?_) (fun key row => ?_) added distinct
    · obtain ⟨items, puts⟩ := addRow_puts row
      exact puts.nodup
    · -- A row of tables is no table, whatever its items are.
      obtain ⟨items, puts⟩ := addRow_puts row
      exact distinct.puts puts fun origin inner table => by cases table

def Line.pair? : Line → Option Pair
  | .pair read => some read
  | _ => none

/-- The sections of a document hold the pairs of its lines. -/
theorem pairs_sections (lines : List Line) :
    (sections lines).1.pairs ++ (sections lines).2.flatMap Section.pairs =
      lines.filterMap Line.pair? := by
  induction lines with
  | nil => rfl
  | cons line lines ih => cases line <;> simp [sections, List.filterMap_cons, Line.pair?, ← ih]

theorem sections_neat {lines : List Line} (neat : ∀ pair, .pair pair ∈ lines → Neat pair.value) :
    ∀ s ∈ (sections lines).1 :: (sections lines).2, ∀ pair ∈ s.pairs, Neat pair.value := by
  intro s among pair mem
  have all : pair ∈ lines.filterMap Line.pair? := by
    rw [← pairs_sections, ← List.flatMap_cons]
    exact List.mem_flatMap.mpr ⟨s, among, mem⟩
  obtain ⟨line, among, same⟩ := List.mem_filterMap.mp all
  cases line <;> cases same
  exact neat pair among

theorem ofLines_distinct {lines : List Line} (neat : ∀ pair, .pair pair ∈ lines → Neat pair.value)
    (read : ofLines lines = some next) : Distinct next := by
  -- The sections are added to a document that is empty at first.
  have neat := sections_neat neat
  exact foldlM_invariant (fun s among _ _ => addSection_distinct (neat s among)) read distinct_nil

end Distinct

section Reading

/-! ## What is read has each key once -/

variable {value : Value} {text rest : List Char} {fuel depth : Nat}

theorem Scalar.value?_neat (read : Scalar.value? text = some value) : Neat value := by
  rintro origin inner rfl
  unfold Scalar.value? at read
  repeat' split at read
  all_goals cases read

theorem Scalar.read?_neat (read : Scalar.read? text = some (value, rest)) : Neat value := by
  simp only [Scalar.read?] at read
  repeat' split at read
  all_goals
    obtain ⟨scalar, token, same⟩ := Option.map_eq_some_iff.mp read
    cases same
    exact Scalar.value?_neat token

/-- The keys in braces are added one after the other, like those of a section. -/
theorem value?_neat (read : value? fuel depth text = some (value, rest)) : Neat value := by
  cases fuel with
  | zero => simp [value?] at read
  | succ fuel =>
    unfold value? at read
    -- Only braces make a table; quoted texts, arrays and scalars are none.
    split at read
    case h_5 => exact Scalar.read?_neat read
    case h_4 =>
      split at read
      · cases read
      · obtain ⟨pairs, -, read⟩ := Option.bind_eq_some_iff.mp read
        obtain ⟨entries, added, same⟩ := Option.bind_eq_some_iff.mp read
        cases same
        intro origin inner table
        cases table
        exact keepsNodup_addPairs [] entries added List.nodup_nil
    case h_3 =>
      split at read
      · cases read
      · obtain ⟨items, -, same⟩ := Option.map_eq_some_iff.mp read
        cases same
        intro origin inner table
        cases table
    all_goals
      obtain ⟨chars, -, same⟩ := Option.map_eq_some_iff.mp read
      cases same
      intro origin inner table
      cases table

theorem pair?_neat {pair : Pair} (read : pair? fuel depth text = some (pair, rest)) :
    Neat pair.value := by
  cases fuel with
  | zero => simp [pair?] at read
  | succ fuel =>
    unfold pair? at read
    obtain ⟨⟨path, behind⟩, -, body⟩ := Option.bind_eq_some_iff.mp read
    dsimp only at body
    split at body
    · obtain ⟨⟨value, rest⟩, reads, same⟩ := Option.bind_eq_some_iff.mp body
      cases same
      exact value?_neat reads
    · cases body

theorem line?_neat {pair : Pair} (read : line? fuel text = some (.pair pair, rest)) :
    Neat pair.value := by
  unfold line? at read
  split at read
  case h_3 =>
    obtain ⟨⟨pair, behind⟩, reads, body⟩ := Option.bind_eq_some_iff.mp read
    obtain ⟨rest, -, same⟩ := Option.bind_eq_some_iff.mp body
    cases same
    exact pair?_neat reads
  -- Headers have no value.
  all_goals
    obtain ⟨⟨path, behind⟩, -, body⟩ := Option.bind_eq_some_iff.mp read
    dsimp only at body
    split at body
    · obtain ⟨rest, -, same⟩ := Option.bind_eq_some_iff.mp body
      cases same
    · cases body

theorem lines?_neat {lines : List Line} (read : lines? fuel text = some lines) :
    ∀ pair, .pair pair ∈ lines → Neat pair.value := by
  induction fuel generalizing text lines with
  | zero => cases read
  | succ fuel ih =>
    unfold lines? at read
    split at read
    · cases read
      simp
    · split at read
      · obtain ⟨behind, -, body⟩ := Option.bind_eq_some_iff.mp read
        exact ih body
      · obtain ⟨⟨line, behind⟩, front, body⟩ := Option.bind_eq_some_iff.mp read
        obtain ⟨others, back, same⟩ := Option.bind_eq_some_iff.mp body
        cases same
        intro pair mem
        obtain rfl | mem := List.mem_cons.mp mem
        · exact line?_neat front
        · exact ih back pair mem

/-- A document that is read has each of its keys once, and so has each of its tables. -/
theorem parse?_distinct {text : String} {document : Entries}
    (read : parse? text = some document) : Distinct document := by
  obtain ⟨lines, written, read⟩ := Option.bind_eq_some_iff.mp read
  exact ofLines_distinct (lines?_neat written) read

end Reading

end EdgeReveal.Toml
