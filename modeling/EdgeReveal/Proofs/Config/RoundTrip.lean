import EdgeReveal.Config.Reader
import EdgeReveal.Proofs.Toml.Documents
import Mathlib.Data.List.Nodup

/-!
# A printed configuration is read back

The entries of a configuration stand between its text and its record: the text
is a document of them, and the record is what they are read as. The keys are
printed in the order of their declaration and read in ascending order.
-/
namespace EdgeReveal.Config

open Toml (Entries ReadsAs Prints IsBare keys pairLines)

section Entries

/-! ## The entries of a configuration -/

def wordEntry (key : String) (value : UInt32) : String × Toml.Value := (key, .integer value.toNat)

def textEntry (key : String) : Option String → Entries
  | some text => [(key, .text text)]
  | none => []

def settingsEntries (s : Settings) : Entries :=
  [wordEntry "threshold-hidden-y" s.thresholdHidden,
    wordEntry "threshold-visible-y" s.thresholdVisible,
    wordEntry "delay-show" s.delayShow,
    wordEntry "delay-hide" s.delayHide,
    wordEntry "check-interval" s.checkInterval,
    wordEntry "consecutive-checks-before-visible" s.showChecks]

def panelEntries (p : PanelSettings) : Entries :=
  textEntry "output" p.output ++ textEntry "on-show" p.onShow ++ textEntry "on-hide" p.onHide ++
    [("emit-json", .boolean p.emitJson)]

def tables (c : Config) : List (String × Entries) :=
  [("autohide", settingsEntries c.autohide), ("panel", panelEntries c.panel)]

theorem keys_textEntry (key : String) (text : Option String) :
    (keys (textEntry key text)).Sublist [key] := by
  cases text <;> simp [textEntry, keys]

/-- A text that is absent leaves out its key and nothing else. -/
theorem keys_panelEntries (p : PanelSettings) : (keys (panelEntries p)).Sublist panelKeys := by
  have texts := ((keys_textEntry "output" p.output).append
    (keys_textEntry "on-show" p.onShow)).append (keys_textEntry "on-hide" p.onHide)
  simpa [panelEntries, keys, panelKeys] using texts.append (List.Sublist.refl ["emit-json"])

theorem nodup_settingsEntries (s : Settings) : (keys (settingsEntries s)).Nodup := by
  have declared : settingsKeys.Nodup := by decide
  exact declared

theorem nodup_panelEntries (p : PanelSettings) : (keys (panelEntries p)).Nodup := by
  have declared : panelKeys.Nodup := by decide
  exact declared.sublist (keys_panelEntries p)

theorem nodup_tables (c : Config) : (keys (c.tables.map Toml.asEntry)).Nodup := by
  have declared : sectionKeys.Nodup := by decide
  exact declared

theorem nodup_table (c : Config) : ∀ table ∈ c.tables, (keys table.2).Nodup := by
  simp only [tables, List.mem_cons, List.not_mem_nil, or_false, forall_eq_or_imp, forall_eq]
  exact ⟨nodup_settingsEntries c.autohide, nodup_panelEntries c.panel⟩

end Entries

section Printing

/-! ## The text is a document of the entries -/

theorem prints_line {key : String} {written : List Char} {value : Toml.Value} (bare : IsBare key)
    (reads : ReadsAs written value) : Prints (line key written) [.pair ⟨[key], value⟩] := by
  simpa [line] using Toml.prints_pair bare reads

theorem prints_wordLine {key : String} (bare : IsBare key) (value : UInt32) :
    Prints (wordLine key value) (pairLines [wordEntry key value]) :=
  prints_line bare (Toml.readsAs_number value.toNat)

theorem prints_textLine {key : String} (bare : IsBare key) (text : Option String) :
    Prints (textLine key text) (pairLines (textEntry key text)) := by
  cases text with
  | none => exact Toml.prints_nil
  | some text => exact prints_line bare (Toml.readsAs_string text)

theorem isBare_settingsKeys : ∀ key ∈ settingsKeys, IsBare key := by decide

theorem isBare_panelKeys : ∀ key ∈ panelKeys, IsBare key := by decide

theorem isBare_sectionKeys : ∀ key ∈ sectionKeys, IsBare key := by decide

theorem prints_settingsLines (s : Settings) :
    Prints (settingsLines s) (pairLines (settingsEntries s)) := by
  have word {key : String} (declared : key ∈ settingsKeys) :=
    prints_wordLine (isBare_settingsKeys key declared)
  exact (((((word (by decide) _).append (word (by decide) _)).append (word (by decide) _)).append
    (word (by decide) _)).append (word (by decide) _)).append (word (by decide) _)

theorem prints_panelLines (p : PanelSettings) :
    Prints (panelLines p) (pairLines (panelEntries p)) := by
  have text {key : String} (declared : key ∈ panelKeys) :=
    prints_textLine (isBare_panelKeys key declared)
  have texts := ((text (by decide : "output" ∈ panelKeys) p.output).append
    (text (by decide : "on-show" ∈ panelKeys) p.onShow)).append
    (text (by decide : "on-hide" ∈ panelKeys) p.onHide)
  have json : Prints _ (pairLines [("emit-json", .boolean p.emitJson)]) :=
    prints_line (isBare_panelKeys "emit-json" (by decide)) (Toml.readsAs_boolean p.emitJson)
  rw [panelEntries, Toml.pairLines_append, Toml.pairLines_append, Toml.pairLines_append]
  exact texts.append json

theorem prints_autohide {body : List Char} {entries : Entries}
    (prints : Prints body (pairLines entries)) :
    Prints ("[autohide]\n".toList ++ body) (Toml.tableLines ("autohide", entries)) := by
  simpa using Toml.prints_table (isBare_sectionKeys "autohide" (by decide)) prints

theorem prints_panel {body : List Char} {entries : Entries}
    (prints : Prints body (pairLines entries)) :
    Prints ("[panel]\n".toList ++ body) (Toml.tableLines ("panel", entries)) := by
  simpa using Toml.prints_table (isBare_sectionKeys "panel" (by decide)) prints

theorem prints_toToml (c : Config) :
    Prints c.toToml.toList (c.tables.flatMap Toml.tableLines) := by
  have autohide := prints_autohide (prints_settingsLines c.autohide)
  have panel := prints_panel (prints_panelLines c.panel)
  have lines : c.tables.flatMap Toml.tableLines =
      Toml.tableLines ("autohide", settingsEntries c.autohide) ++ [] ++
        Toml.tableLines ("panel", panelEntries c.panel) := by
    simp [tables]
  unfold toToml
  rw [String.toList_ofList, List.append_assoc, lines]
  exact (autohide.append Toml.prints_blank).append panel

theorem toToml_head (c : Config) : ∃ more, c.toToml.toList = '[' :: more := by
  unfold toToml
  rw [String.toList_ofList]
  exact ⟨_, rfl⟩

/-- The text of a configuration is the document of its entries. -/
theorem parse?_toToml (c : Config) : Toml.parse? c.toToml = some (c.tables.map Toml.asEntry) := by
  have unmarked : Toml.skipMark c.toToml.toList = c.toToml.toList := by
    obtain ⟨more, head⟩ := toToml_head c
    rw [head]
    rfl
  rw [Toml.parse?_of_prints unmarked (prints_toToml c)]
  exact Toml.ofLines_tables (nodup_tables c) (nodup_table c)

end Printing

section Reading

/-! ## The entries are read as the record -/

/-- There is one ascending order of entries, and it is the order they are looked at in. -/
theorem sorted_of_perm {entries ascending : Entries} (perm : entries.Perm ascending)
    (order : (keys ascending).Pairwise (· ≤ ·)) (distinct : (keys ascending).Nodup) :
    sorted entries = ascending := by
  have sorts : (sorted entries).Perm ascending := (List.mergeSort_perm ..).trans perm
  have ordered : (sorted entries).Pairwise fun a b => decide (a.1 ≤ b.1) := by
    refine List.pairwise_mergeSort (fun a b c ab bc => ?_) (fun a b => ?_) entries
    · exact decide_eq_true (String.le_trans (of_decide_eq_true ab) (of_decide_eq_true bc))
    · simpa using String.le_total a.1 b.1
  have target : ascending.Pairwise fun a b => decide (a.1 ≤ b.1) :=
    (List.pairwise_map.mp order).imp decide_eq_true
  refine List.Perm.eq_of_pairwise (fun a b mem mem' ab ba => ?_) ordered target sorts
  have same : a.1 = b.1 := String.le_antisymm (of_decide_eq_true ab) (of_decide_eq_true ba)
  exact List.inj_on_of_nodup_map distinct (sorts.mem_iff.mp mem) mem' same

theorem word?_of_bounds {n : Int} (bounds : 0 ≤ n ∧ n < UInt32.size) :
    word? (.integer n) = some (.ofNat n.toNat) := by
  simp only [word?]
  rw [if_pos bounds]

theorem word?_toNat (word : UInt32) : word? (.integer word.toNat) = some word := by
  have upper : (word.toNat : Int) < UInt32.size := Int.ofNat_lt.mpr word.toNat_lt_size
  rw [word?_of_bounds ⟨Int.natCast_nonneg _, upper⟩, Int.toNat_natCast, UInt32.ofNat_toNat]

theorem typed_of_read {α β : Type} {read : Toml.Value → Option β} {value : Toml.Value} {x : β}
    (same : read value = some x) (put : α → β → α) (record : α) :
    typed read put record value = .ok (put record x) := by simp only [typed, same]

theorem putEntry_word {α : Type} {fields : List (Field α)} {key : String} {set : α → UInt32 → α}
    (field : fields.find? (·.key == key) = some ⟨key, typed word? set⟩) (record : α)
    (word : UInt32) : putEntry fields record (wordEntry key word) = .ok (set record word) := by
  simp only [putEntry, wordEntry, field]
  exact typed_of_read (word?_toNat word) set record

theorem ofEntries_of_steps {α : Type} {fields : List (Field α)} {default record : α}
    {entries ascending : Entries} (order : sorted entries = ascending)
    (steps : ascending.foldlM (putEntry fields) default = .ok record) :
    ofEntries fields default entries = .ok record := by rw [ofEntries, order, steps]

theorem foldlM_of_put {α : Type} {fields : List (Field α)} {record next last : α}
    {entry : String × Toml.Value} {entries : Entries}
    (put : putEntry fields record entry = .ok next)
    (steps : entries.foldlM (putEntry fields) next = .ok last) :
    (entry :: entries).foldlM (putEntry fields) record = .ok last := by
  rw [List.foldlM_cons, put]
  exact steps

theorem ofEntries_settings (s : Settings) :
    ofEntries settingsFields {} (settingsEntries s) = .ok s := by
  have ascending : sorted (settingsEntries s) =
      [wordEntry "check-interval" s.checkInterval,
        wordEntry "consecutive-checks-before-visible" s.showChecks,
        wordEntry "delay-hide" s.delayHide,
        wordEntry "delay-show" s.delayShow,
        wordEntry "threshold-hidden-y" s.thresholdHidden,
        wordEntry "threshold-visible-y" s.thresholdVisible] := by
    refine sorted_of_perm ?perm ?order ?distinct
    -- Values have no decidable equality, so the entries are counted classically.
    case perm =>
      classical
      rw [settingsEntries, List.perm_iff_count]
      intro entry
      simp only [List.count_cons, List.count_nil]
      omega
    all_goals simp [keys, wordEntry]
  have put {key : String} {set : Settings → UInt32 → Settings}
      (field : settingsFields.find? (·.key == key) = some ⟨key, typed word? set⟩) :=
    putEntry_word field
  apply ofEntries_of_steps ascending
  iterate 6 refine foldlM_of_put (put rfl _ _) ?_
  rfl

theorem ofEntries_panel (p : PanelSettings) :
    ofEntries panelFields {} (panelEntries p) = .ok p := by
  have ascending : sorted (panelEntries p) = (panelEntries p).reverse := by
    refine sorted_of_perm (List.reverse_perm _).symm ?order ?distinct
    all_goals rw [keys, List.map_reverse]
    -- The keys happen to be declared in descending order.
    case order =>
      have descending : panelKeys.Pairwise fun a b => b ≤ a := by decide
      exact List.pairwise_reverse.mpr (descending.sublist (keys_panelEntries p))
    case distinct => exact List.nodup_reverse.mpr (nodup_panelEntries p)
  apply ofEntries_of_steps ascending
  obtain ⟨_ | output, _ | onShow, _ | onHide, emitJson⟩ := p <;> rfl

theorem ofTable_tables (c : Config) : ofTable (c.tables.map Toml.asEntry) = .ok c := by
  have settings := ofEntries_settings c.autohide
  have texts := ofEntries_panel c.panel
  have ascending : sorted (c.tables.map Toml.asEntry) = c.tables.map Toml.asEntry :=
    sorted_of_perm (.refl _) (by simp [keys, tables, Toml.asEntry]) (nodup_tables c)
  have autohide : putEntry sectionFields {}
      (Toml.asEntry ("autohide", settingsEntries c.autohide)) = .ok { autohide := c.autohide } := by
    simp [putEntry, sectionFields, Toml.asEntry, putAutohide, ofValue, settings]
  have panel : putEntry sectionFields { autohide := c.autohide }
      (Toml.asEntry ("panel", panelEntries c.panel)) = .ok c := by
    simp [putEntry, sectionFields, Toml.asEntry, putPanel, ofValue, texts]
  exact ofEntries_of_steps ascending (foldlM_of_put autohide (foldlM_of_put panel rfl))

theorem parse_printed (c : Config) (path : String) : parse c.toToml path = .ok c := by
  simp only [parse, parse?_toToml, ofTable_tables]

/-- Printing gives a text, and reading it gives the configuration back, whatever the texts
in it hold. -/
theorem parse_toToml (c : Config) : c.toToml ≠ "" ∧ ∀ path, parse c.toToml path = .ok c := by
  constructor
  · intro empty
    obtain ⟨more, head⟩ := toToml_head c
    simp [empty] at head
  · exact parse_printed c

end Reading

end EdgeReveal.Config
