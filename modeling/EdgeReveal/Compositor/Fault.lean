import EdgeReveal.OsFault
import EdgeReveal.Text.Quoted

/-!
# Compositor faults

Why a request to the compositor has no usable answer.
-/
namespace EdgeReveal

inductive CompositorFault where
  | noInstance
  | io (path : String) (cause : OsFault)
  | emptyReply (command : String)
  | invalidReply
  deriving DecidableEq, Repr, Inhabited

def CompositorFault.message : CompositorFault → String
  | .noInstance => "HYPRLAND_INSTANCE_SIGNATURE is not set; is Hyprland running?"
  | .io path cause => s!"socket {Text.quote path}: {cause.message}"
  | .emptyReply command => s!"empty reply to {Text.quote command}"
  | .invalidReply => "invalid reply: "

inductive PointerFault where
  | unreachable (cause : CompositorFault)
  | malformed (reply : String)
  deriving DecidableEq, Repr, Inhabited

def PointerFault.message : PointerFault → String
  | .unreachable cause => s!"pointer source unreachable: {cause.message}"
  | .malformed reply => s!"malformed cursor reply {Text.quote reply}"

end EdgeReveal
