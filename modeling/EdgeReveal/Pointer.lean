import EdgeReveal.Geometry
import EdgeReveal.Text.Blank
import EdgeReveal.Text.Decimal

/-!
# Pointer replies

The compositor answers with two integers and a comma; blanks may stand around
each of them.
-/
namespace EdgeReveal

/-- Splits at the first comma and drops it. -/
def splitComma (text : List Char) : Option (List Char × List Char) :=
  match text.dropWhile (· != ',') with
  | [] => none
  | _ :: after => some (text.takeWhile (· != ','), after)

def Position.ofReply? (reply : String) : Option Position := do
  let (x, y) ← splitComma (Text.trim reply.toList)
  return ⟨← Text.int32? (Text.trim x), ← Text.int32? (Text.trim y)⟩

end EdgeReveal
