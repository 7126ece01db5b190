import EdgeReveal.Compositor.Fault
import EdgeReveal.Dispatcher
import EdgeReveal.Monitor.Reply
import EdgeReveal.Pointer
import EdgeReveal.Text.Utf8

/-!
# Requests to the compositor

Each request opens the request socket anew, sends one command and reads the
reply to its end.
-/
namespace EdgeReveal

/-- What is found at a socket path. -/
inductive Endpoint where
  | missing
  | refusing
  | replying (reply : List UInt8)
  deriving DecidableEq, Repr, Inhabited

/-- A request socket and what will be found there. -/
structure Client where
  path : String
  endpoint : Endpoint
  deriving DecidableEq, Repr, Inhabited

/-- A reply that holds no position comes back in the fault as it is. -/
def Position.ofReply (reply : String) : Except PointerFault Position :=
  match Position.ofReply? reply with
  | some position => .ok position
  | none => .error (.malformed reply)

namespace Client

def monitorsCommand : String := "j/monitors"

def cursorCommand : String := "cursorpos"

/-- A reply of blanks alone counts as no reply. -/
def request (client : Client) (command : String) : Except CompositorFault String :=
  match client.endpoint with
  | .missing => .error (.io client.path .notFound)
  | .refusing => .error (.io client.path .connectionRefused)
  | .replying bytes =>
    match Text.decodeUtf8? bytes with
    | none => .error (.io client.path .notUtf8)
    | some reply =>
      if reply.toList.all Text.isBlank then .error (.emptyReply command) else .ok reply

/-- The command that reaches the compositor, if it can be reached. -/
def received (client : Client) (command : String) : Option String :=
  match client.endpoint with
  | .replying _ => some command
  | .missing | .refusing => none

def monitors (client : Client) : Except CompositorFault (List Monitor) :=
  match client.request monitorsCommand with
  | .error fault => .error fault
  | .ok reply =>
    match Monitor.ofReply? reply with
    | some monitors => .ok monitors
    | none => .error .invalidReply

def cursorPosition (client : Client) : Except PointerFault Position :=
  match client.request cursorCommand with
  | .error fault => .error (.unreachable fault)
  | .ok reply => Position.ofReply reply

/-- A failed query and an unknown output both leave the geometry unknown. -/
def outputGeometry (client : Client) (output : Option String) : Option Geometry :=
  match client.monitors with
  | .error _ => none
  | .ok monitors => (Monitor.select monitors output).map Monitor.geometry

end Client

/-- A fixed list of monitors answers every query alike. -/
instance : GeometrySource (List Monitor) where
  query monitors output := ((Monitor.select monitors output).map Monitor.geometry, monitors)

/-- The answers that successive queries of the compositor will get. -/
structure ReplySequence where
  path : String
  endpoints : List Endpoint
  deriving Repr, Inhabited

instance : GeometrySource ReplySequence where
  query source output :=
    match source.endpoints with
    | [] => (none, source)
    | endpoint :: rest =>
      (Client.outputGeometry ⟨source.path, endpoint⟩ output, { source with endpoints := rest })

end EdgeReveal
