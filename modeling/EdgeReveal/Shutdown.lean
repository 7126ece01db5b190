/-!
# Shutdown signals

The signals that end the program in an orderly way. They are awaited, so only
these are ever forwarded.
-/
namespace EdgeReveal

def shutdownSignals : List String := ["SIGINT", "SIGTERM", "SIGHUP"]

/-- What is forwarded when a signal is raised. -/
def forwarded? (signal : String) : Option String :=
  if signal ∈ shutdownSignals then some signal else none

end EdgeReveal
