import EdgeReveal.Compositor.Fault
import EdgeReveal.Files.Basic

/-!
# Compositor sockets

Where a running instance of the compositor keeps its two sockets. Recent ones
use the runtime folder, older ones a fixed folder.
-/
namespace EdgeReveal

structure SocketPaths where
  request : String
  events : String
  deriving DecidableEq, Repr, Inhabited

namespace SocketPaths

def inFolder (folder : String) : SocketPaths where
  request := Path.join folder ".socket.sock"
  events := Path.join folder ".socket2.sock"

/-- The folder below the runtime folder if there is one, otherwise the fixed one. -/
def instanceFolder (fs : Files) (runtime : Option String) (signature : String) : String :=
  let fallback := Path.join "/tmp/hypr" signature
  match runtime with
  | none => fallback
  | some runtime =>
    let folder := Path.join (Path.join runtime "hypr") signature
    if fs.contains folder then folder else fallback

/-- Finds the sockets of the instance that `signature` names, if it names one. -/
def locate (fs : Files) (runtime signature : Option String) :
    Except CompositorFault SocketPaths :=
  match signature with
  | none => .error .noInstance
  | some signature =>
    if signature.isEmpty then .error .noInstance
    else .ok (inFolder (instanceFolder fs runtime signature))

end SocketPaths

end EdgeReveal
