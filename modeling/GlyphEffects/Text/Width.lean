import GlyphEffects.Text.Cluster
import GlyphEffects.Text.WideRanges

/-! # Widths in cells

On a grid of equal cells a cluster takes two cells if one of its characters is wide or asks for
the emoji form, and one cell otherwise. A string takes the cells of its clusters.

* `clusterCells` is the width of one cluster.
* `cells` is the width of a string.
-/

namespace GlyphEffects.Text

/-- Whether a character makes its cluster two cells wide. -/
def isWide (c : Char) : Bool := c = '\ufe0f' || wides.has c

/-- The number of cells of one cluster. -/
def clusterCells (cluster : List Char) : Nat := if cluster.any isWide then 2 else 1

/-- The number of cells of a string. -/
def cells (s : String) : Nat :=
  ((Cluster.cut s.toList).map clusterCells).foldl (· + ·) 0

end GlyphEffects.Text
