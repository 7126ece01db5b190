import EdgeReveal.Config.Basic
import EdgeReveal.OsFault
import EdgeReveal.Text.Quoted
import EdgeReveal.Toml.Reader

/-!
# Reading a configuration

Every key is optional and no other key is allowed. The keys of a table are
looked at in ascending order, so the first fault in that order is the one
reported. A table may also be an array of the values in their declared order.
-/
namespace EdgeReveal

open Toml (Value Entries)

/-- What is wrong with the value of a document. -/
inductive ConfigFault where
  | unknownKey (key : String) (expected : List String)
  | wrongType
  deriving DecidableEq, Repr, Inhabited

/-- The allowed keys in words. -/
def expectedText : List String → String
  | [] => "there are no fields"
  | [a] => s!"expected `{a}`"
  | [a, b] => s!"expected `{a}` or `{b}`"
  | keys => "expected one of " ++ String.intercalate ", " (keys.map fun key => s!"`{key}`")

/-- The wording for a key that is not allowed. -/
def ConfigFault.unknownText? : ConfigFault → Option String
  | .unknownKey key expected => some s!"unknown field `{key}`, {expectedText expected}"
  | .wrongType => none

namespace Config

def word? : Value → Option UInt32
  | .integer n => if 0 ≤ n ∧ n < UInt32.size then some (.ofNat n.toNat) else none
  | _ => none

def text? : Value → Option String
  | .text value => some value
  | _ => none

def boolean? : Value → Option Bool
  | .boolean value => some value
  | _ => none

/-- A key, and how its value is put into a record. -/
structure Field (α : Type) where
  key : String
  put : α → Value → Except ConfigFault α

def typed {α β : Type} (read : Value → Option β) (put : α → β → α) (record : α) (value : Value) :
    Except ConfigFault α :=
  match read value with
  | some read => .ok (put record read)
  | none => .error .wrongType

def keysOf {α : Type} (fields : List (Field α)) : List String := fields.map (·.key)

def putEntry {α : Type} (fields : List (Field α)) (record : α) (entry : String × Value) :
    Except ConfigFault α :=
  match fields.find? (·.key == entry.1) with
  | some field => field.put record entry.2
  | none => .error (.unknownKey entry.1 (keysOf fields))

/-- Entries in ascending order of their keys. -/
def sorted (entries : Entries) : Entries := entries.mergeSort fun a b => decide (a.1 ≤ b.1)

def ofEntries {α : Type} (fields : List (Field α)) (default : α) (entries : Entries) :
    Except ConfigFault α :=
  (sorted entries).foldlM (putEntry fields) default

/-- Items beyond the declared fields are ignored. -/
def ofItems {α : Type} (fields : List (Field α)) (default : α) (items : List Value) :
    Except ConfigFault α :=
  (fields.zip items).foldlM (fun record (field, value) => field.put record value) default

def ofValue {α : Type} (fields : List (Field α)) (default : α) : Value → Except ConfigFault α
  | .table _ entries => ofEntries fields default entries
  | .array _ items => ofItems fields default items
  | _ => .error .wrongType

def settingsFields : List (Field Settings) :=
  [⟨"threshold-hidden-y", typed word? fun s n => { s with thresholdHidden := n }⟩,
    ⟨"threshold-visible-y", typed word? fun s n => { s with thresholdVisible := n }⟩,
    ⟨"delay-show", typed word? fun s n => { s with delayShow := n }⟩,
    ⟨"delay-hide", typed word? fun s n => { s with delayHide := n }⟩,
    ⟨"check-interval", typed word? fun s n => { s with checkInterval := n }⟩,
    ⟨"consecutive-checks-before-visible", typed word? fun s n => { s with showChecks := n }⟩]

def panelFields : List (Field PanelSettings) :=
  [⟨"output", typed text? fun p text => { p with output := some text }⟩,
    ⟨"on-show", typed text? fun p text => { p with onShow := some text }⟩,
    ⟨"on-hide", typed text? fun p text => { p with onHide := some text }⟩,
    ⟨"emit-json", typed boolean? fun p value => { p with emitJson := value }⟩]

def putAutohide (c : Config) (value : Value) : Except ConfigFault Config :=
  match ofValue settingsFields {} value with
  | .ok settings => .ok { c with autohide := settings }
  | .error fault => .error fault

def putPanel (c : Config) (value : Value) : Except ConfigFault Config :=
  match ofValue panelFields {} value with
  | .ok settings => .ok { c with panel := settings }
  | .error fault => .error fault

def sectionFields : List (Field Config) := [⟨"autohide", putAutohide⟩, ⟨"panel", putPanel⟩]

/-- The configuration that the table of a document stands for. -/
def ofTable (entries : Entries) : Except ConfigFault Config := ofEntries sectionFields {} entries

end Config

/-- Why no configuration could be loaded. A text that is no document has no further cause. -/
inductive ConfigError where
  | read (path : String) (cause : OsFault)
  | parse (path : String) (cause : Option ConfigFault)
  deriving DecidableEq, Repr, Inhabited

/-- What the message says before the cause. -/
def ConfigError.prefixText : ConfigError → String
  | .read path _ => s!"failed to read config file {Text.quote path}"
  | .parse path _ => s!"failed to parse config file {Text.quote path}"

/-- The wording of a fault in the document itself is left to the reader of documents. -/
def ConfigError.message (e : ConfigError) : String :=
  match e with
  | .read _ cause => s!"{e.prefixText}: {cause.message}"
  | .parse _ _ => s!"{e.prefixText}: "

namespace Config

def parse (text path : String) : Except ConfigError Config :=
  match Toml.parse? text with
  | none => .error (.parse path none)
  | some entries =>
    match ofTable entries with
    | .ok config => .ok config
    | .error fault => .error (.parse path (some fault))

end Config

end EdgeReveal
