import EdgeReveal.Event

/-!
# Dispatch requests

What the other actors ask of the dispatcher, and which compositor events call
for it.
-/
namespace EdgeReveal

inductive Request where
  /-- A pending visibility settled; draw whatever is current by now. -/
  | render
  /-- The layout changed; force the panel visible. -/
  | override (event : String)
  /-- Outputs came or went; resolve the followed one again. -/
  | outputsChanged
  | shutdown
  deriving DecidableEq, Repr, Inhabited

namespace Request

/-- Layout events, whose data is a pair written with a comma. -/
def overrideEvents : List String := ["workspacev2", "focusedmonv2"]

def outputEvents : List String :=
  ["monitoraddedv2", "monitorremovedv2", "monitoradded", "monitorremoved"]

/-- The events a controller subscribes to. -/
def watchedEvents : List String := overrideEvents ++ outputEvents

/-- A layout event whose data is no pair is malformed and asks for nothing. -/
def ofEvent? (event : Event) : Option Request :=
  if event.name ∈ overrideEvents then
    if ',' ∈ event.data.toList then some (.override event.name) else none
  else if event.name ∈ outputEvents then some .outputsChanged
  else none

end Request

end EdgeReveal
