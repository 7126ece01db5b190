/-!
# Output geometry

A rectangle in the compositor's global pixel coordinates, and the cache that
holds the one the panel follows. Rectangles are half open, so that outputs
side by side share no pixel.
-/
namespace EdgeReveal

/-- A point in global coordinates. -/
structure Position where
  x : Int32
  y : Int32
  deriving DecidableEq, Repr, Inhabited

/-- An invalid geometry stands for an output that is gone or was never known. -/
structure Geometry where
  x : Int32 := 0
  y : Int32 := 0
  width : Int32 := 0
  height : Int32 := 0
  label : String := ""
  valid : Bool := false
  deriving DecidableEq, Repr, Inhabited

namespace Geometry

/-- The edges are added as integers, so a rectangle may reach beyond the 32-bit range. -/
def contains (g : Geometry) (p : Position) : Bool :=
  g.x.toInt ≤ p.x.toInt && p.x.toInt < g.x.toInt + g.width.toInt &&
    (g.y.toInt ≤ p.y.toInt && p.y.toInt < g.y.toInt + g.height.toInt)

/-- Height of a point below the top edge, if the point is on this output. -/
def relativeY (g : Geometry) (p : Position) : Option Int32 :=
  if g.valid && g.contains p then some (p.y - g.y) else none

end Geometry

/-- The geometry that the sampler reads and the dispatcher writes, each as a whole. -/
structure GeometryCache where
  held : Geometry := {}
  deriving DecidableEq, Repr, Inhabited

namespace GeometryCache

def write (_cache : GeometryCache) (geometry : Geometry) : GeometryCache := ⟨geometry⟩

/-- Forgets the rectangle but not the name of the output. -/
def invalidate (cache : GeometryCache) : GeometryCache := ⟨{ label := cache.held.label }⟩

def read (cache : GeometryCache) : Option Geometry :=
  if cache.held.valid then some cache.held else none

@[simp] theorem read_write (cache : GeometryCache) (geometry : Geometry) :
    (cache.write geometry).read = if geometry.valid then some geometry else none := rfl

@[simp] theorem read_invalidate (cache : GeometryCache) : cache.invalidate.read = none := rfl

end GeometryCache

end EdgeReveal
