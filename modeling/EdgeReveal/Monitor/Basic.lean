import EdgeReveal.Geometry

/-!
# Monitors

What the compositor reports of each output, and which one the panel follows.
-/
namespace EdgeReveal

/-- `width` and `height` are those of the mode; odd transforms turn it by a quarter. -/
structure Monitor where
  name : String
  x : Int32
  y : Int32
  width : Int32
  height : Int32
  scale : Float := 1.0
  transform : UInt8 := 0
  focused : Bool := false
  disabled : Bool := false
  deriving Repr, Inhabited

namespace Monitor

/-- A scale that cannot divide a size counts as one. -/
def effectiveScale (m : Monitor) : Float :=
  if m.scale.isFinite && m.scale > 0 then m.scale else 1.0

/-- Halves are rounded away from zero, and sizes beyond 32 bits are cut to the nearest. -/
def scaled (m : Monitor) (size : Int32) : Int32 :=
  (Float.ofInt size.toInt / m.effectiveScale).round.toInt32

/-- Width and height in the pixels that the pointer is reported in. -/
def logicalSize (m : Monitor) : Int32 × Int32 :=
  if m.transform % 2 = 1 then (m.scaled m.height, m.scaled m.width)
  else (m.scaled m.width, m.scaled m.height)

def geometry (m : Monitor) : Geometry where
  x := m.x
  y := m.y
  width := m.logicalSize.1
  height := m.logicalSize.2
  label := m.name
  valid := true

/-- The first enabled monitor of that name; without a name, the first focused one or the first. -/
def select (monitors : List Monitor) (name : Option String) : Option Monitor :=
  let enabled := monitors.filter (!·.disabled)
  match name with
  | some name => enabled.find? (·.name == name)
  | none => (enabled.find? (·.focused)).or enabled.head?

end Monitor

end EdgeReveal
