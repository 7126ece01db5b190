/-!
# TOML values

A table remembers how it was written, because that decides what a document may
still add to it. Integers are unbounded here; whoever reads one bounds it.
Floats and dates keep their spelling.
-/
namespace EdgeReveal.Toml

/-- How a table came into a document. -/
inductive Origin where
  /-- By a header of its own. -/
  | header
  /-- By a header of a table inside it. -/
  | implied
  /-- By a dotted key. -/
  | dotted
  /-- By braces. -/
  | inline
  deriving DecidableEq, Repr, Inhabited

/-- `array true` is a row of tables that headers add to. -/
inductive Value where
  | text (value : String)
  | integer (value : Int)
  | float (spelling : String)
  | boolean (value : Bool)
  | moment (spelling : String)
  | array (ofTables : Bool) (items : List Value)
  | table (origin : Origin) (entries : List (String × Value))
  deriving Repr, Inhabited

/-- The entries of a table, in the order they were written. -/
abbrev Entries := List (String × Value)

def find? (entries : Entries) (key : String) : Option Value :=
  (entries.find? (·.1 == key)).map (·.2)

/-- Replaces the value at a key that is there. -/
def replace (entries : Entries) (key : String) (value : Value) : Entries :=
  entries.map fun entry => if entry.1 == key then (key, value) else entry

end EdgeReveal.Toml
