import EdgeReveal.Proofs.Config.RoundTrip
import EdgeReveal.Proofs.Toml.Adding

/-!
# Reading a group of keys

A group of keys takes its values one after the other into a record of defaults. Whether a value
is taken depends on its key and on nothing that was taken before, and a value that is taken is
what the record shows under its key from then on. So a table without a key twice is read in any
order of its entries to the same record, and if one of them is not taken there is no record.
-/
namespace EdgeReveal.Config

open Toml (Value Entries find? keys)

section Reading

/-! ## Reading one group of keys -/

variable {α β : Type} {fields : List (Field α)} {record next : α} {key : String} {value : Value}
  {entries : Entries}

theorem typed_eq_ok_iff {read : Value → Option β} {put : α → β → α} :
    typed read put record value = .ok next ↔ ∃ x, read value = some x ∧ put record x = next := by
  unfold typed
  cases read value <;> simp

/-- A key is taken by the one field that has it. -/
theorem putEntry_eq_ok_iff (distinct : (keysOf fields).Nodup) :
    putEntry fields record (key, value) = .ok next ↔
      ∃ field ∈ fields, field.key = key ∧ field.put record value = .ok next := by
  have only (field : Field α) : fields.find? (·.key == key) = some field ↔ _ :=
    Toml.find?_name_eq_some_iff distinct
  constructor
  · intro put
    unfold putEntry at put
    split at put
    next field found =>
      obtain ⟨mem, same⟩ := (only field).mp found
      exact ⟨field, mem, same, put⟩
    next => cases put
  · rintro ⟨field, mem, same, put⟩
    simp only [putEntry, (only field).mpr ⟨mem, same⟩, put]

/-- Which values a group of keys takes, whatever it has taken before. -/
def Takes (fields : List (Field α)) (taken : String → Value → Prop) : Prop :=
  ∀ record key value, (∃ next, putEntry fields record (key, value) = .ok next) ↔ taken key value

/-- A part of a record that one key alone has a say in: it becomes what the key's value stands
for. -/
structure Governs (fields : List (Field α)) (key : String) (part : α → β)
    (standsFor : Value → β → Prop) : Prop where
  own : ∀ record value next, putEntry fields record (key, value) = .ok next →
    standsFor value (part next)
  others : ∀ record entry next, entry.1 ≠ key → putEntry fields record entry = .ok next →
    part next = part record

theorem foldlM_cons_eq_ok_iff {entry : String × Value} {last : α} :
    (entry :: entries).foldlM (putEntry fields) record = .ok last ↔
      ∃ next, putEntry fields record entry = .ok next ∧
        entries.foldlM (putEntry fields) next = .ok last := by
  rw [List.foldlM_cons]
  cases putEntry fields record entry <;> simp [bind, Except.bind]

theorem Takes.foldlM_iff {taken : String → Value → Prop} (takes : Takes fields taken) :
    (∃ last, entries.foldlM (putEntry fields) record = .ok last) ↔
      ∀ entry ∈ entries, taken entry.1 entry.2 := by
  induction entries generalizing record with
  | nil => simp [pure, Except.pure]
  | cons entry entries ih =>
    simp only [foldlM_cons_eq_ok_iff, List.forall_mem_cons]
    -- The next record does not matter for what is taken after it.
    rw [← takes record]
    constructor
    · rintro ⟨last, next, put, run⟩
      exact ⟨⟨next, put⟩, ih.mp ⟨last, run⟩⟩
    · rintro ⟨⟨next, put⟩, others⟩
      have rest : ∃ last, entries.foldlM (putEntry fields) next = .ok last := ih.mpr others
      obtain ⟨last, run⟩ := rest
      exact ⟨last, next, put, run⟩

variable {part : α → β} {standsFor : Value → β → Prop} {taken : String → Value → Prop}
  {default last : α}

theorem Governs.absent (governs : Governs fields key part standsFor) (absent : key ∉ keys entries)
    (run : entries.foldlM (putEntry fields) record = .ok last) : part last = part record := by
  -- By induction on the entries: each of them has another key and leaves the part as it is.
  induction entries generalizing record with
  | nil =>
    cases run
    rfl
  | cons entry entries ih =>
    obtain ⟨next, put, run⟩ := foldlM_cons_eq_ok_iff.mp run
    rw [keys, List.map_cons, List.mem_cons, not_or] at absent
    rw [ih absent.2 run, governs.others record entry next (Ne.symm absent.1) put]

theorem Governs.present (governs : Governs fields key part standsFor)
    (distinct : (keys entries).Nodup) (mem : (key, value) ∈ entries)
    (run : entries.foldlM (putEntry fields) record = .ok last) : standsFor value (part last) := by
  induction entries generalizing record with
  | nil => cases mem
  | cons entry entries ih =>
    obtain ⟨next, put, others⟩ := foldlM_cons_eq_ok_iff.mp run
    obtain ⟨fresh, distinct⟩ := List.nodup_cons.mp distinct
    obtain rfl | mem := List.mem_cons.mp mem
    · -- No entry behind this one has its key.
      rw [governs.absent fresh others]
      exact governs.own record value next put
    · exact ih distinct mem others

theorem sorted_perm (entries : Entries) : (sorted entries).Perm entries := List.mergeSort_perm ..

theorem keys_sorted_perm (entries : Entries) : (keys (sorted entries)).Perm (keys entries) :=
  (sorted_perm entries).map _

/-- A table is read if all of its entries are taken. -/
theorem Takes.ofEntries_iff (takes : Takes fields taken) (distinct : (keys entries).Nodup) :
    (∃ record, ofEntries fields default entries = .ok record) ↔
      ∀ key value, find? entries key = some value → taken key value := by
  -- In ascending order the entries are the same ones.
  simp only [ofEntries, takes.foldlM_iff, (sorted_perm entries).mem_iff]
  simp only [Toml.find?_eq_some_iff distinct, Prod.forall]

theorem Governs.ofEntries_some (governs : Governs fields key part standsFor)
    (distinct : (keys entries).Nodup) (found : find? entries key = some value)
    (read : ofEntries fields default entries = .ok record) : standsFor value (part record) := by
  have mem : (key, value) ∈ sorted entries :=
    (sorted_perm entries).mem_iff.mpr ((Toml.find?_eq_some_iff distinct).mp found)
  exact governs.present ((keys_sorted_perm entries).nodup_iff.mpr distinct) mem read

theorem Governs.ofEntries_none (governs : Governs fields key part standsFor)
    (absent : find? entries key = none) (read : ofEntries fields default entries = .ok record) :
    part record = part default := by
  have absent : key ∉ keys (sorted entries) := by
    rw [(keys_sorted_perm entries).mem_iff]
    exact Toml.find?_eq_none_iff.mp absent
  exact governs.absent absent read

end Reading

section Groups

/-! ## The two groups -/

variable {α β : Type} {fields : List (Field α)} {key : String} {value : Value}
  {typed : Value → Prop} {taken : String → Value → Prop} {shown : α → Entries}

/-- The entries that the tuning settings may have. -/
inductive SettingsEntry : String → Value → Prop
  | word {key : String} {n : Int} (known : key ∈ settingsKeys) (lower : 0 ≤ n)
    (upper : n < 2 ^ 32) : SettingsEntry key (.integer n)

/-- The entries that the panel settings may have. -/
inductive PanelEntry : String → Value → Prop
  | text {key : String} {text : String} (known : key ∈ ["output", "on-show", "on-hide"]) :
    PanelEntry key (.text text)
  | boolean {b : Bool} : PanelEntry "emit-json" (.boolean b)

/-- A field takes the values of its type, and the entries of the record show what it took. -/
structure Faithful (field : Field α) (typed : Value → Prop) (shown : α → Entries) : Prop where
  takes : ∀ record value, (∃ next, field.put record value = .ok next) ↔ typed value
  shows : ∀ record value next, field.put record value = .ok next → ∀ other,
    find? (shown next) other = if other = field.key then some value else find? (shown record) other

theorem faithful_typed {read : Value → Option β} {write : β → Value} {put : α → β → α}
    (typed_iff : ∀ value, typed value ↔ ∃ x, value = write x)
    (inverse : ∀ value x, read value = some x ↔ value = write x)
    (shows : ∀ record x other,
      find? (shown (put record x)) other =
        if other = key then some (write x) else find? (shown record) other) :
    Faithful ⟨key, Config.typed read put⟩ typed shown where
  takes record value := by simp [typed_eq_ok_iff, inverse, typed_iff]
  shows record value next taken other := by
    obtain ⟨x, reads, rfl⟩ := typed_eq_ok_iff.mp taken
    rw [shows, (inverse value x).mp reads]

theorem takes_of_faithful (distinct : (keysOf fields).Nodup)
    (faithful : ∀ field ∈ fields, Faithful field (taken field.key) shown)
    (known : ∀ key value, taken key value → key ∈ keysOf fields) : Takes fields taken := by
  intro record key value
  simp only [putEntry_eq_ok_iff distinct]
  constructor
  · rintro ⟨next, field, mem, rfl, put⟩
    exact ((faithful field mem).takes record value).mp ⟨next, put⟩
  · intro takes
    obtain ⟨field, mem, rfl⟩ := List.mem_map.mp (known key value takes)
    obtain ⟨next, put⟩ := ((faithful field mem).takes record value).mpr takes
    exact ⟨next, field, mem, rfl, put⟩

/-- What the entries of the record show under a key is governed by the key. -/
theorem governs_of_faithful (distinct : (keysOf fields).Nodup)
    (faithful : ∀ field ∈ fields, Faithful field (taken field.key) shown) (key : String) :
    Governs fields key (fun record => find? (shown record) key) fun value held =>
      held = some value where
  own record value next put := by
    obtain ⟨field, mem, rfl, taken⟩ := (putEntry_eq_ok_iff distinct).mp put
    rw [(faithful field mem).shows record value next taken, if_pos rfl]
  others record entry next differs put := by
    obtain ⟨field, mem, same, taken⟩ := (putEntry_eq_ok_iff distinct).mp put
    rw [(faithful field mem).shows record entry.2 next taken, if_neg (same ▸ differs.symm)]

theorem word?_eq_some_iff (value : Value) (word : UInt32) :
    word? value = some word ↔ value = .integer word.toNat := by
  constructor
  · intro read
    cases value with
    | integer n =>
      simp only [word?, Option.ite_none_right_eq_some, Option.some.injEq] at read
      obtain ⟨⟨lower, upper⟩, rfl⟩ := read
      have small : n.toNat < UInt32.size := (Int.toNat_lt lower).mpr upper
      rw [UInt32.toNat_ofNat_of_lt' small, Int.toNat_of_nonneg lower]
    | _ => simp [word?] at read
  · rintro rfl
    exact word?_toNat word

theorem text?_eq_some_iff (value : Value) (text : String) :
    text? value = some text ↔ value = .text text := by
  cases value <;> simp [text?]

theorem boolean?_eq_some_iff (value : Value) (b : Bool) :
    boolean? value = some b ↔ value = .boolean b := by
  cases value <;> simp [boolean?]

theorem settingsEntry_iff (known : key ∈ settingsKeys) (value : Value) :
    SettingsEntry key value ↔ ∃ word : UInt32, value = .integer word.toNat := by
  constructor
  · rintro ⟨-, lower, upper⟩
    exact ⟨_, (word?_eq_some_iff _ _).mp (word?_of_bounds ⟨lower, upper⟩)⟩
  · rintro ⟨word, rfl⟩
    have upper := word.toNat_lt
    exact .word known (by omega) (by omega)

theorem faithful_settings :
    ∀ field ∈ settingsFields, Faithful field (SettingsEntry field.key) settingsEntries := by
  intro field mem
  have known : field.key ∈ settingsKeys := List.mem_map.mpr ⟨field, mem, rfl⟩
  simp only [settingsFields, List.mem_cons, List.not_mem_nil, or_false] at mem
  rcases mem with rfl | rfl | rfl | rfl | rfl | rfl
  -- All of the fields are words, and each is shown under a key of its own.
  all_goals
    refine faithful_typed (settingsEntry_iff known) word?_eq_some_iff fun s word other => ?_
    simp only [settingsEntries, wordEntry, Toml.find?_cons]
    grind

theorem find?_textEntry (key : String) (text : Option String) (other : String) :
    find? (textEntry key text) other = if key = other then text.map .text else none := by
  cases text with
  | none => simp [textEntry]
  | some text => simp [textEntry, Toml.find?_cons]

theorem find?_panelEntries (p : PanelSettings) (key : String) :
    find? (panelEntries p) key =
      if key = "output" then p.output.map .text
      else if key = "on-show" then p.onShow.map .text
      else if key = "on-hide" then p.onHide.map .text
      else if key = "emit-json" then some (.boolean p.emitJson)
      else none := by
  simp only [panelEntries, Toml.find?_append, find?_textEntry, Toml.find?_cons]
  by_cases output : key = "output"
  · simp [output]
  by_cases onShow : key = "on-show"
  · simp [onShow]
  by_cases onHide : key = "on-hide"
  · simp [onHide]
  simp [output, onShow, onHide, Ne.symm output, Ne.symm onShow, Ne.symm onHide, eq_comm]

theorem panelEntry_text_iff (known : key ∈ ["output", "on-show", "on-hide"]) (value : Value) :
    PanelEntry key value ↔ ∃ text, value = .text text := by
  constructor
  · rintro (⟨known⟩ | _)
    · exact ⟨_, rfl⟩
    · exact absurd known (by decide)
  · rintro ⟨text, rfl⟩
    exact .text known

theorem panelEntry_boolean_iff (value : Value) :
    PanelEntry "emit-json" value ↔ ∃ b, value = .boolean b := by
  constructor
  · rintro (⟨known⟩ | _)
    · exact absurd known (by decide)
    · exact ⟨_, rfl⟩
  · rintro ⟨b, rfl⟩
    exact .boolean

theorem faithful_panel :
    ∀ field ∈ panelFields, Faithful field (PanelEntry field.key) panelEntries := by
  intro field mem
  simp only [panelFields, List.mem_cons, List.not_mem_nil, or_false] at mem
  rcases mem with rfl | rfl | rfl | rfl
  case inr.inr.inr =>
    refine faithful_typed panelEntry_boolean_iff boolean?_eq_some_iff fun p b other => ?_
    simp only [find?_panelEntries]
    grind
  all_goals
    refine faithful_typed (panelEntry_text_iff (by simp)) text?_eq_some_iff fun p text other => ?_
    simp only [find?_panelEntries]
    grind

/-- What the entries of a record show: those that were read, and its own under other keys. -/
theorem find?_shown {default record : α} {entries : Entries} (distinct : (keys entries).Nodup)
    (governs : ∀ key, Governs fields key (fun record => find? (shown record) key)
      fun value held => held = some value)
    (read : ofEntries fields default entries = .ok record) (key : String) :
    find? (shown record) key = (find? entries key).or (find? (shown default) key) := by
  cases found : find? entries key with
  | none => exact (governs key).ofEntries_none found read
  | some value => exact (governs key).ofEntries_some distinct found read

theorem nodup_settingsFields : (keysOf settingsFields).Nodup := by decide

theorem nodup_panelFields : (keysOf panelFields).Nodup := by decide

theorem takes_settings : Takes settingsFields SettingsEntry := by
  refine takes_of_faithful nodup_settingsFields faithful_settings fun key value taken => ?_
  cases taken with
  | word known => exact known

theorem takes_panel : Takes panelFields PanelEntry := by
  refine takes_of_faithful nodup_panelFields faithful_panel fun key value taken => ?_
  have declared : ∀ key ∈ ["output", "on-show", "on-hide"], key ∈ keysOf panelFields := by decide
  cases taken with
  | text known => exact declared key known
  | boolean => decide

end Groups

end EdgeReveal.Config
