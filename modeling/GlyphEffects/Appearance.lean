import GlyphEffects.Color

/-! # Appearances

How one glyph looks: its color and how it is moved, stretched, slanted and turned.

* `Appearance` holds these, and `Appearance.plain` is how text looks by itself.
* `Position` is what an effect may know of the place where it is used.
-/

namespace GlyphEffects

/-- A pair of numbers along the two axes. -/
@[ext] structure Vec where
  x : Float32
  y : Float32
deriving DecidableEq

/-- How one glyph looks. -/
@[ext] structure Appearance where
  color : Color := .white
  offset : Vec := ⟨0, 0⟩
  scale : Vec := ⟨1, 1⟩
  skew : Vec := ⟨0, 0⟩
  rotation : Float32 := 0
deriving DecidableEq

/-- How text looks by itself: white, in its place and in its own size. -/
def Appearance.plain : Appearance := {}

/-- One cluster within a run of text: the cluster, its place counted from 1, and the number of
clusters in the run. -/
structure Position where
  cluster : String
  index : Nat
  length : Nat
deriving DecidableEq, Repr

end GlyphEffects
