import EdgeReveal.Text.Blank

/-!
# Compositor events

The event stream carries one `NAME>>DATA` line per event. Reading a line never
fails: a line without a separator is a bare name.
-/
namespace EdgeReveal

structure Event where
  name : String
  data : String
  deriving DecidableEq, Repr, Inhabited

namespace Event

def isLineEnd (c : Char) : Bool := c == '\n' || c == '\r'

/-- Splits at the first `>`; a second one right behind it belongs to the separator. -/
def split (line : List Char) : List Char × List Char :=
  let name := line.takeWhile (· != '>')
  match line.dropWhile (· != '>') with
  | [] => (name, [])
  | [_] => (name, [])
  | _ :: '>' :: data => (name, data)
  | _ :: data => (name, data)

def ofLine (line : String) : Event :=
  let (name, data) := split (Text.dropEndWhile isLineEnd line.toList)
  ⟨String.ofList name, String.ofList data⟩

end Event

end EdgeReveal
