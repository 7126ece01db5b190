import EdgeReveal.Toml.Value

/-!
# TOML documents

A document is a row of sections: a header and the key-value pairs under it.
Its table is built by adding one section after the other, and adding fails
where the document would define something twice.
-/
namespace EdgeReveal.Toml

/-- A key-value pair; the key is a path of at least one name. -/
structure Pair where
  path : List String
  value : Value
  deriving Repr, Inhabited

/-- What a line of a document does. -/
inductive Line where
  | pair (pair : Pair)
  | header (path : List String)
  | rowHeader (path : List String)
  deriving Repr, Inhabited

/-- What the pairs of a section are added to. -/
inductive Target where
  | root
  | table (path : List String)
  | row (path : List String)
  deriving DecidableEq, Repr, Inhabited

structure Section where
  target : Target
  pairs : List Pair
  deriving Repr, Inhabited

/-- Adds a pair below a table. A dotted key makes the tables on its way, or goes through
those that a dotted key has made; `parent` is how the table at hand came about, if it is
not the section's own. -/
def addPair (value : Value) : List String → Option Origin → Entries → Option Entries
  | [], _, _ => none
  | [key], parent, entries =>
    if parent.all (· == .dotted) && (find? entries key).isNone then some (entries ++ [(key, value)])
    else none
  | key :: rest, _, entries =>
    match find? entries key with
    | none =>
      (addPair value rest (some .dotted) []).map fun inner =>
        entries ++ [(key, .table .dotted inner)]
    | some (.table origin inner) =>
      if origin = .inline ∨ origin = .header then none
      else
        (addPair value rest (some origin) inner).map fun inner =>
          replace entries key (.table origin inner)
    | some (.array true items) =>
      match items.getLast? with
      | some (.table origin inner) =>
        (addPair value rest (some origin) inner).map fun inner =>
          replace entries key (.array true (items.dropLast ++ [.table origin inner]))
      | _ => none
    | some _ => none

def addPairs (entries : Entries) (pairs : List Pair) : Option Entries :=
  pairs.foldlM (fun entries pair => addPair pair.value pair.path none entries) entries

/-- Adds a section's table at the end of a header's path. -/
def addTable (pairs : List Pair) (key : String) (entries : Entries) : Option Entries :=
  match find? entries key with
  | none => (addPairs [] pairs).map fun inner => entries ++ [(key, .table .header inner)]
  | some (.table .implied inner) =>
    (addPairs inner pairs).map fun inner => replace entries key (.table .header inner)
  | some _ => none

/-- Adds a section's table to the row of tables at the end of a header's path. -/
def addRow (pairs : List Pair) (key : String) (entries : Entries) : Option Entries :=
  match find? entries key with
  | none =>
    (addPairs [] pairs).map fun inner =>
      entries ++ [(key, .array true [.table .header inner])]
  | some (.array true items) =>
    (addPairs [] pairs).map fun inner =>
      replace entries key (.array true (items ++ [.table .header inner]))
  | some _ => none

/-- Follows a header's path; tables on its way that are not there yet are implied. -/
def addBelow (add : String → Entries → Option Entries) : List String → Entries → Option Entries
  | [], _ => none
  | [key], entries => add key entries
  | key :: rest, entries =>
    match find? entries key with
    | none => (addBelow add rest []).map fun inner => entries ++ [(key, .table .implied inner)]
    | some (.table origin inner) =>
      if origin = .inline then none
      else (addBelow add rest inner).map fun inner => replace entries key (.table origin inner)
    | some (.array true items) =>
      match items.getLast? with
      | some (.table origin inner) =>
        (addBelow add rest inner).map fun inner =>
          replace entries key (.array true (items.dropLast ++ [.table origin inner]))
      | _ => none
    | some _ => none

def addSection (entries : Entries) (s : Section) : Option Entries :=
  match s.target with
  | .root => addPairs entries s.pairs
  | .table path => addBelow (addTable s.pairs) path entries
  | .row path => addBelow (addRow s.pairs) path entries

/-- The first section holds what stands before any header. -/
def sections : List Line → Section × List Section
  | [] => (⟨.root, []⟩, [])
  | .pair pair :: rest =>
    let (first, others) := sections rest
    ({ first with pairs := pair :: first.pairs }, others)
  | .header path :: rest =>
    let (first, others) := sections rest
    (⟨.root, []⟩, { first with target := .table path } :: others)
  | .rowHeader path :: rest =>
    let (first, others) := sections rest
    (⟨.root, []⟩, { first with target := .row path } :: others)

/-- The table that the lines of a document define. -/
def ofLines (lines : List Line) : Option Entries :=
  let (first, others) := sections lines
  (first :: others).foldlM addSection []

end EdgeReveal.Toml
