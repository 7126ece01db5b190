import EdgeReveal.Geometry
import EdgeReveal.Visibility

/-!
# Shared state

The two values that the sampler and the dispatcher both touch. The slot is
written by either, the cache by the dispatcher alone.
-/
namespace EdgeReveal

structure Shared where
  slot : Slot := {}
  geometry : GeometryCache := {}
  deriving DecidableEq, Repr, Inhabited

namespace Shared

def store (shared : Shared) (next : Visibility) : Shared :=
  { shared with slot := shared.slot.store next }

def writeGeometry (shared : Shared) (geometry : Geometry) : Shared :=
  { shared with geometry := shared.geometry.write geometry }

def invalidateGeometry (shared : Shared) : Shared :=
  { shared with geometry := shared.geometry.invalidate }

end Shared

end EdgeReveal
