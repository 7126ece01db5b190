/-!
# Log verbosity
-/
namespace EdgeReveal

/-- The default log filter for a number of requests for more output. -/
def logDirective : Nat → String
  | 0 => "panel_autohide=info"
  | 1 => "panel_autohide=debug"
  | _ => "panel_autohide=trace"

end EdgeReveal
