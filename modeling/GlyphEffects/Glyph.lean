import GlyphEffects.Appearance
import GlyphEffects.Number.Fixed

/-! # Glyphs

A piece is one cluster with the appearance it is shown with, and a glyph is a piece set at a place
on the line.

* `Glyph.x` and `Glyph.y` are where a glyph is drawn.
* `Glyph.table` lists glyphs as text, one a line.
-/

namespace GlyphEffects

open GlyphEffects.Number

/-- A cluster with the appearance it is shown with. -/
@[ext] structure Piece where
  cluster : String
  appearance : Appearance
deriving DecidableEq

/-- A piece set where the cursor stood. -/
@[ext] structure Glyph extends Piece where
  cursor : Float32
deriving DecidableEq

namespace Glyph

/-- Where a glyph is drawn along the line. -/
def x (g : Glyph) : Float32 := g.cursor + g.appearance.offset.x

/-- Where a glyph is drawn across the line. -/
def y (g : Glyph) : Float32 := g.appearance.offset.y

/-- The point of a glyph around which it is turned and stretched. -/
def origin (_ : Glyph) : Vec := ⟨0, 0⟩

def tuple (xs : List Float32) : String := "(" ++ ",".intercalate (xs.map hundredths) ++ ")"

/-- The line of a glyph: its cluster, where it is drawn, and how it looks. -/
def line (g : Glyph) : String :=
  let a := g.appearance
  g.cluster ++ " x=" ++ hundredths g.x ++ " y=" ++ hundredths g.y
    ++ " rgba=" ++ tuple [a.color.red, a.color.green, a.color.blue, a.color.alpha]
    ++ " scale=" ++ tuple [a.scale.x, a.scale.y]
    ++ " skew=" ++ tuple [a.skew.x, a.skew.y]
    ++ " rot=" ++ hundredths a.rotation ++ "\n"

def table (gs : List Glyph) : String := String.join (gs.map line)

end Glyph

end GlyphEffects
