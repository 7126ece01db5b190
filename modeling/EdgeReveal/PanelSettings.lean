/-!
# Panel settings

Which output the panel follows and how a visibility is applied to it.
-/
namespace EdgeReveal

structure PanelSettings where
  output : Option String := none
  onShow : Option String := none
  onHide : Option String := none
  emitJson : Bool := true
  deriving DecidableEq, Repr, Inhabited

end EdgeReveal
