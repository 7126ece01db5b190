import EdgeReveal.Proofs.Config.Groups
import EdgeReveal.Proofs.Toml.Spellings

/-!
# What a configuration takes from a document

A document is accepted if it has no unknown key and no value of a wrong type. The configuration
then has the document's value under each key that is there and the default under each other key,
in whatever order and spelling the document was written.
-/
namespace EdgeReveal.Config

open Toml (Value Entries Agree find? valueAt keys)

section Document

/-! ## The whole document -/

variable {document another : Entries} {c d : Config} {name : String} {value : Value}

/-- The two groups are tables, where they are there at all. -/
def Tabular (document : Entries) : Prop :=
  ∀ name ∈ sectionKeys, ∀ value, find? document name = some value →
    ∃ origin entries, value = .table origin entries

/-- No key is unknown and no value has a wrong type. -/
structure Proper (document : Entries) : Prop where
  names : ∀ name, (find? document name).isSome → name ∈ sectionKeys
  autohide : ∀ key value, valueAt document "autohide" key = some value → SettingsEntry key value
  panel : ∀ key value, valueAt document "panel" key = some value → PanelEntry key value

/-- Each field of the configuration has the value of its key in the document, and its default if
the key is not there. -/
structure Configures (document : Entries) (c : Config) : Prop where
  thresholdHidden : .integer c.autohide.thresholdHidden.toNat =
    (valueAt document "autohide" "threshold-hidden-y").getD (.integer 1)
  thresholdVisible : .integer c.autohide.thresholdVisible.toNat =
    (valueAt document "autohide" "threshold-visible-y").getD (.integer 50)
  delayShow : .integer c.autohide.delayShow.toNat =
    (valueAt document "autohide" "delay-show").getD (.integer 0)
  delayHide : .integer c.autohide.delayHide.toNat =
    (valueAt document "autohide" "delay-hide").getD (.integer 3000)
  checkInterval : .integer c.autohide.checkInterval.toNat =
    (valueAt document "autohide" "check-interval").getD (.integer 100)
  showChecks : .integer c.autohide.showChecks.toNat =
    (valueAt document "autohide" "consecutive-checks-before-visible").getD (.integer 2)
  output : c.panel.output.map .text = valueAt document "panel" "output"
  onShow : c.panel.onShow.map .text = valueAt document "panel" "on-show"
  onHide : c.panel.onHide.map .text = valueAt document "panel" "on-hide"
  emitJson : .boolean c.panel.emitJson =
    (valueAt document "panel" "emit-json").getD (.boolean true)

theorem valueAt_eq_of_agree (agree : Agree document another) :
    valueAt document = valueAt another := funext fun table => funext (agree.values table)

theorem Proper.of_agree (proper : Proper document) (agree : Agree document another) :
    Proper another := by
  obtain ⟨names, autohide, panel⟩ := proper
  simp only [agree.names, valueAt_eq_of_agree agree] at names autohide panel
  exact ⟨names, autohide, panel⟩

theorem Configures.of_agree (configures : Configures document c)
    (agree : Agree document another) : Configures another c := by
  have same := valueAt_eq_of_agree agree
  cases configures
  constructor <;> simp_all only

theorem word_eq_of_integer {a b : UInt32} (same : Value.integer a.toNat = .integer b.toNat) :
    a = b := by
  injection same with same
  exact UInt32.toNat_inj.mp (Int.ofNat_inj.mp same)

/-- The document leaves nothing of the configuration open. -/
theorem Configures.eq (one : Configures document c) (other : Configures document d) : c = d := by
  have word {a b : UInt32} {value : Value} (first : .integer a.toNat = value)
      (second : .integer b.toNat = value) : a = b := word_eq_of_integer (first.trans second.symm)
  have text {a b : Option String} {value : Option Value} (first : a.map .text = value)
      (second : b.map .text = value) : a = b :=
    Option.map_injective (fun _ _ => Value.text.inj) (first.trans second.symm)
  have flag {a b : Bool} {value : Value} (first : .boolean a = value)
      (second : .boolean b = value) : a = b := Value.boolean.inj (first.trans second.symm)
  -- Each field is determined by the value of the document that it stands for.
  obtain ⟨⟨_, _, _, _, _, _⟩, ⟨_, _, _, _⟩⟩ := c
  obtain ⟨⟨_, _, _, _, _, _⟩, ⟨_, _, _, _⟩⟩ := d
  congr
  · exact word one.thresholdHidden other.thresholdHidden
  · exact word one.thresholdVisible other.thresholdVisible
  · exact word one.delayShow other.delayShow
  · exact word one.delayHide other.delayHide
  · exact word one.checkInterval other.checkInterval
  · exact word one.showChecks other.showChecks
  · exact text one.output other.output
  · exact text one.onShow other.onShow
  · exact text one.onHide other.onHide
  · exact flag one.emitJson other.emitJson

theorem putAutohide_eq_ok_iff :
    putAutohide c value = .ok d ↔
      ∃ s, ofValue settingsFields {} value = .ok s ∧ { c with autohide := s } = d := by
  unfold putAutohide
  cases ofValue settingsFields {} value <;> simp

theorem putPanel_eq_ok_iff :
    putPanel c value = .ok d ↔
      ∃ p, ofValue panelFields {} value = .ok p ∧ { c with panel := p } = d := by
  unfold putPanel
  cases ofValue panelFields {} value <;> simp

theorem putSection_eq_ok_iff :
    putEntry sectionFields c (name, value) = .ok d ↔
      (name = "autohide" ∧ ∃ s, ofValue settingsFields {} value = .ok s ∧
        { c with autohide := s } = d) ∨
      (name = "panel" ∧ ∃ p, ofValue panelFields {} value = .ok p ∧
        { c with panel := p } = d) := by
  have distinct : (keysOf sectionFields).Nodup := by decide
  rw [putEntry_eq_ok_iff distinct]
  simp only [sectionFields, List.mem_cons, List.not_mem_nil, or_false, exists_eq_or_imp,
    exists_eq_left, putAutohide_eq_ok_iff, putPanel_eq_ok_iff, @eq_comm _ name]

theorem governs_autohide : Governs sectionFields "autohide" Config.autohide fun value s =>
    ofValue settingsFields {} value = .ok s where
  own c value d put := by
    obtain ⟨-, s, read, rfl⟩ | ⟨impossible, -⟩ := putSection_eq_ok_iff.mp put
    · exact read
    · exact absurd impossible (by decide)
  others c entry d differs put := by
    obtain ⟨same, -⟩ | ⟨-, p, -, rfl⟩ := putSection_eq_ok_iff.mp put
    · exact absurd same differs
    · rfl

theorem governs_panel : Governs sectionFields "panel" Config.panel fun value p =>
    ofValue panelFields {} value = .ok p where
  own c value d put := by
    obtain ⟨impossible, -⟩ | ⟨-, p, read, rfl⟩ := putSection_eq_ok_iff.mp put
    · exact absurd impossible (by decide)
    · exact read
  others c entry d differs put := by
    obtain ⟨-, s, -, rfl⟩ | ⟨same, -⟩ := putSection_eq_ok_iff.mp put
    · rfl
    · exact absurd same differs

theorem takes_sections : Takes sectionFields fun name value =>
    (name = "autohide" ∧ ∃ s, ofValue settingsFields {} value = .ok s) ∨
      (name = "panel" ∧ ∃ p, ofValue panelFields {} value = .ok p) := by
  intro c name value
  simp only [putSection_eq_ok_iff]
  constructor
  · rintro ⟨d, ⟨same, s, read, -⟩ | ⟨same, p, read, -⟩⟩
    · exact .inl ⟨same, s, read⟩
    · exact .inr ⟨same, p, read⟩
  · rintro (⟨same, s, read⟩ | ⟨same, p, read⟩)
    · exact ⟨_, .inl ⟨same, s, read, rfl⟩⟩
    · exact ⟨_, .inr ⟨same, p, read, rfl⟩⟩

variable {α : Type} {fields : List (Field α)} {default record : α} {shown : α → Entries}
  {taken : String → Value → Prop}

theorem Tabular.nodup (tabular : Tabular document) (distinct : Toml.Distinct document)
    (known : name ∈ sectionKeys) (found : find? document name = some value) :
    ∃ origin entries, value = .table origin entries ∧ (keys entries).Nodup := by
  obtain ⟨origin, entries, rfl⟩ := tabular name known value found
  exact ⟨origin, entries, rfl, distinct.inside name _ found origin entries rfl⟩

/-- A group is read if its table, where it is there, has only entries that are taken. -/
theorem ofValue_iff_taken (tabular : Tabular document) (distinct : Toml.Distinct document)
    (known : name ∈ sectionKeys) (takes : Takes fields taken) :
    (∀ value, find? document name = some value →
      ∃ record, ofValue fields default value = .ok record) ↔
      ∀ key value, valueAt document name key = some value → taken key value := by
  cases found : find? document name with
  | none => simp [Toml.valueAt_of_absent found]
  | some table =>
    obtain ⟨origin, entries, rfl, nodup⟩ := tabular.nodup distinct known found
    simp [Toml.valueAt_of_table found, ofValue, takes.ofEntries_iff nodup]

/-- The record of a group shows the values of its table, and defaults under the other keys. -/
theorem find?_shown_valueAt (tabular : Tabular document) (distinct : Toml.Distinct document)
    (known : name ∈ sectionKeys)
    (governs : ∀ key, Governs fields key (fun record => find? (shown record) key)
      fun value held => held = some value)
    (present : ∀ value, find? document name = some value →
      ofValue fields default value = .ok record)
    (absent : find? document name = none → record = default) (key : String) :
    find? (shown record) key = (valueAt document name key).or (find? (shown default) key) := by
  cases found : find? document name with
  | none => simp [Toml.valueAt_of_absent found, absent found]
  | some table =>
    obtain ⟨origin, entries, rfl, nodup⟩ := tabular.nodup distinct known found
    rw [Toml.valueAt_of_table found]
    exact find?_shown nodup governs (present _ found) key

/-- A document without a key twice is read if it is proper. -/
theorem ofTable_iff_proper (tabular : Tabular document) (distinct : Toml.Distinct document) :
    (∃ c, ofTable document = .ok c) ↔ Proper document := by
  have settings : (∀ value, find? document "autohide" = some value →
      ∃ s, ofValue settingsFields {} value = .ok s) ↔ _ :=
    ofValue_iff_taken tabular distinct (by decide) takes_settings
  have panel : (∀ value, find? document "panel" = some value →
      ∃ p, ofValue panelFields {} value = .ok p) ↔ _ :=
    ofValue_iff_taken tabular distinct (by decide) takes_panel
  -- Each group is read on its own, so a document is read if both of them are.
  rw [ofTable, takes_sections.ofEntries_iff distinct.keys]
  constructor
  · intro read
    refine ⟨?names, settings.mp ?autohide, panel.mp ?panel⟩
    case names =>
      intro name present
      obtain ⟨value, found⟩ := Option.isSome_iff_exists.mp present
      obtain ⟨rfl, -⟩ | ⟨rfl, -⟩ := read name value found <;> decide
    case autohide =>
      intro value found
      obtain ⟨-, s, read⟩ | ⟨impossible, -⟩ := read "autohide" value found
      · exact ⟨s, read⟩
      · exact absurd impossible (by decide)
    case panel =>
      intro value found
      obtain ⟨impossible, -⟩ | ⟨-, p, read⟩ := read "panel" value found
      · exact absurd impossible (by decide)
      · exact ⟨p, read⟩
  · intro proper name value found
    have known := proper.names name (Option.isSome_iff_exists.mpr ⟨value, found⟩)
    simp only [sectionKeys, List.mem_cons, List.not_mem_nil, or_false] at known
    obtain rfl | rfl := known
    · exact .inl ⟨rfl, settings.mpr proper.autohide value found⟩
    · exact .inr ⟨rfl, panel.mpr proper.panel value found⟩

theorem configures_of_ofTable (tabular : Tabular document) (distinct : Toml.Distinct document)
    (read : ofTable document = .ok c) : Configures document c := by
  have settings := find?_shown_valueAt tabular distinct (by decide)
    (governs_of_faithful nodup_settingsFields faithful_settings)
    (fun _ found => governs_autohide.ofEntries_some distinct.keys found read)
    (fun absent => governs_autohide.ofEntries_none absent read)
  have panel := find?_shown_valueAt tabular distinct (by decide)
    (governs_of_faithful nodup_panelFields faithful_panel)
    (fun _ found => governs_panel.ofEntries_some distinct.keys found read)
    (fun absent => governs_panel.ofEntries_none absent read)
  -- What a record shows under a key is the key's field, here and in the defaults.
  have held {value unset : Value} {entry : Option Value}
      (shown : some value = entry.or (some unset)) : value = entry.getD unset :=
    Option.some.inj (shown.trans Option.or_some)
  exact {
    thresholdHidden := held (settings "threshold-hidden-y")
    thresholdVisible := held (settings "threshold-visible-y")
    delayShow := held (settings "delay-show")
    delayHide := held (settings "delay-hide")
    checkInterval := held (settings "check-interval")
    showChecks := held (settings "consecutive-checks-before-visible")
    output := by simpa [find?_panelEntries] using panel "output"
    onShow := by simpa [find?_panelEntries] using panel "on-show"
    onHide := by simpa [find?_panelEntries] using panel "on-hide"
    emitJson := by simpa [find?_panelEntries] using panel "emit-json"
  }

theorem ofTable_eq_ok_iff (tabular : Tabular document) (distinct : Toml.Distinct document) :
    ofTable document = .ok c ↔ Proper document ∧ Configures document c := by
  have proper := ofTable_iff_proper tabular distinct
  constructor
  · intro read
    exact ⟨proper.mp ⟨c, read⟩, configures_of_ofTable tabular distinct read⟩
  · rintro ⟨accepted, configures⟩
    -- Some configuration is read, and there is only one for the document.
    obtain ⟨d, read⟩ := proper.mpr accepted
    rw [configures.eq (configures_of_ofTable tabular distinct read)]
    exact read

end Document

section Parsing

/-! ## Parsing -/

variable {text other path : String} {document another : Entries} {c : Config}

/-- The errors of a document name the path. -/
theorem parse_of_document (read : Toml.parse? text = some document) :
    parse text path = (ofTable document).mapError fun fault => .parse path (some fault) := by
  simp only [parse, read]
  cases ofTable document <;> rfl

theorem parse_eq_ok_iff (read : Toml.parse? text = some document) :
    parse text path = .ok c ↔ ofTable document = .ok c := by
  rw [parse_of_document read]
  cases ofTable document <;> simp [Except.mapError]

theorem parse_fails (read : Toml.parse? text = some document)
    (refused : ∀ c, ofTable document ≠ .ok c) :
    ∃ fault, parse text path = .error (.parse path (some fault)) := by
  rw [parse_of_document read]
  cases taken : ofTable document with
  | ok c => exact absurd taken (refused c)
  | error fault => exact ⟨fault, rfl⟩

/-- What a text is parsed as depends on the keys and values of its document alone. -/
theorem parse_of_agree (read : Toml.parse? text = some document) (tabular : Tabular document)
    (read' : Toml.parse? other = some another) (tabular' : Tabular another)
    (agree : Agree document another) :
    parse other path = .ok c ↔ parse text path = .ok c := by
  have distinct := Toml.parse?_distinct read
  have distinct' := Toml.parse?_distinct read'
  -- Neither what is accepted nor what it configures tells documents apart that agree.
  rw [parse_eq_ok_iff read, parse_eq_ok_iff read', ofTable_eq_ok_iff tabular distinct,
    ofTable_eq_ok_iff tabular' distinct']
  exact and_congr ⟨fun proper => proper.of_agree agree.symm, fun proper => proper.of_agree agree⟩
    ⟨fun configures => configures.of_agree agree.symm,
      fun configures => configures.of_agree agree⟩

/-- Parsing reads the document of the text. Without one, and with a document that has an unknown
key or a value of a wrong type, it gives an error with the path and nothing else. Otherwise it
gives the configuration that has, field by field, the document's value or the default, and the
same one for every text with the same keys and values, in whatever order and spelling. -/
theorem parse_by_content (text path : String) :
    (Toml.parse? text = none → parse text path = .error (.parse path none)) ∧
      ∀ document, Toml.parse? text = some document → Tabular document →
        ((∃ c, parse text path = .ok c) ↔ Proper document) ∧
        (∀ c, parse text path = .ok c → Configures document c) ∧
        (¬Proper document → ∃ fault, parse text path = .error (.parse path (some fault))) ∧
        (∀ other another, Toml.parse? other = some another → Tabular another →
          Agree document another → ∀ c, parse other path = .ok c ↔ parse text path = .ok c) ∧
        ∀ other another sections others, Toml.parse? other = some another →
          Toml.SpelledBy text sections → Toml.SpelledBy other others →
          Toml.Interchangeable sections others →
          ∀ c, parse other path = .ok c ↔ parse text path = .ok c := by
  constructor
  · intro read
    unfold parse
    rw [read]
  intro document read tabular
  have distinct := Toml.parse?_distinct read
  have proper : (∃ c, parse text path = .ok c) ↔ Proper document := by
    simp only [parse_eq_ok_iff read]
    exact ofTable_iff_proper tabular distinct
  refine ⟨proper, fun c parsed => ?fields, fun improper => ?error, ?order, ?spelling⟩
  case fields => exact configures_of_ofTable tabular distinct ((parse_eq_ok_iff read).mp parsed)
  case error =>
    refine parse_fails read fun c taken => improper (proper.mp ⟨c, ?_⟩)
    exact (parse_eq_ok_iff read).mpr taken
  case order =>
    intro other another read' tabular' agree c
    exact parse_of_agree read tabular read' tabular' agree
  case spelling =>
    -- Either text has a document of tables, and the two of them agree.
    intro other another sections others read' spelled spelled' same c
    have agree := Toml.agree_of_interchangeable spelled read spelled' read' same
    obtain ⟨tables, -⟩ := Toml.document_of_spelledBy spelled' read'
    exact parse_of_agree read tabular read' (fun name _ => tables name) agree

/-- A table under each of two headers. -/
def underHeaders : List Toml.Section :=
  [⟨.root, []⟩, ⟨.table ["panel"], [⟨["output"], .text "a"⟩]⟩,
    ⟨.table ["autohide"], [⟨["delay-hide"], .integer 7⟩]⟩]

/-- The same tables by a dotted key and in braces, the other way around. -/
def withoutHeaders : List Toml.Section :=
  [⟨.root, [⟨["autohide", "delay-hide"], .integer 7⟩,
    ⟨["panel"], .table .inline [("output", .text "a")]⟩]⟩]

/-- A text that breaks off, one with an unknown key, and the two spellings of one document. -/
theorem parse_by_content_respelled :
    let headed := "[panel]\noutput=\"a\"\n[autohide]\ndelay-hide=7"
    let respelled := "autohide.delay-hide=7\npanel=\x7boutput=\"a\"\x7d"
    let config : Config := { autohide := { delayHide := 7 }, panel := { output := some "a" } }
    parse "[panel" "p" = .error (.parse "p" none) ∧
      (∃ fault, parse "x=1" "p" = .error (.parse "p" (some fault))) ∧
      parse headed "p" = .ok config ∧ parse respelled "p" = .ok config := by
  intro headed respelled config
  have broken : Toml.parse? "[panel" = none := by cbv
  have unknown : Toml.parse? "x=1" = some [("x", .integer 1)] := by cbv
  have untouched : Tabular [("x", .integer 1)] := by simp [Tabular, sectionKeys, Toml.find?_cons]
  have improper : ¬Proper [("x", .integer 1)] := by
    intro proper
    exact absurd (proper.names "x" rfl) (by decide)
  have spelled : Toml.SpelledBy headed underHeaders := by
    refine ⟨by cbv, ?_⟩
    simp only [underHeaders, List.forall_mem_cons, List.not_mem_nil, false_implies, implies_true,
      and_true]
    exact ⟨⟨.inl rfl, by simp⟩, ⟨.inr ⟨_, rfl⟩, by simpa using .header⟩,
      ⟨.inr ⟨_, rfl⟩, by simpa using .header⟩⟩
  have spelled' : Toml.SpelledBy respelled withoutHeaders := by
    refine ⟨by cbv, ?_⟩
    simp only [withoutHeaders, List.forall_mem_cons, List.not_mem_nil, false_implies,
      implies_true, and_true]
    exact ⟨.inl rfl, by simpa using ⟨.dotted, .inline⟩⟩
  have same : Toml.Interchangeable underHeaders withoutHeaders := by
    constructor
    · simp [underHeaders, withoutHeaders, or_comm]
    · simp [underHeaders, withoutHeaders, Toml.find?_cons]
      grind
  have read : Toml.parse? headed = some [("panel", .table .header [("output", .text "a")]),
      ("autohide", .table .header [("delay-hide", .integer 7)])] := by
    rw [Toml.parse?_eq, spelled.written]
    rfl
  -- The order of the tables and how they came about differ in the other document.
  obtain ⟨another, read'⟩ : ∃ another, Toml.parse? respelled = some another := by
    rw [Toml.parse?_eq, spelled'.written]
    exact ⟨_, rfl⟩
  have tabular : Tabular [("panel", .table .header [("output", .text "a")]),
      ("autohide", .table .header [("delay-hide", .integer 7)])] := by
    simp [Tabular, sectionKeys, Toml.find?_cons]
  obtain ⟨proper, fields, -, -, spelling⟩ := (parse_by_content headed "p").2 _ read tabular
  obtain ⟨c, parsed⟩ := proper.mpr (by
    constructor
    · simp only [sectionKeys, Toml.find?_cons, Toml.find?_nil]
      grind
    · simpa [valueAt, Toml.find?_cons] using .word (by decide) (by decide) (by decide)
    · simpa [valueAt, Toml.find?_cons] using .text (by decide))
  have configured : c = config := (fields c parsed).eq (by constructor <;> rfl)
  rw [configured] at parsed
  refine ⟨(parse_by_content "[panel" "p").1 broken, ?_, parsed,
    (spelling _ _ _ _ read' spelled spelled' same _).mpr parsed⟩
  exact ((parse_by_content "x=1" "p").2 _ unknown untouched).2.2.1 improper

end Parsing

end EdgeReveal.Config
