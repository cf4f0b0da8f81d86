import GlyphEffects.Glyph
import GlyphEffects.Text.Width

/-! # Fonts

Of a font only the widths of its clusters matter here. Pieces are set one after the other: each
stands where the cursor is and moves the cursor by its width, stretched as its appearance says.

* `Font.monospace` and `Font.ofTable` are two kinds of fonts.
* `Font.advance` is where the cursor stands after some pieces.
* `Font.place` sets pieces on the line.
* `Font.advance_append` and `Font.place_append` say that a line can be set in parts.
-/

namespace GlyphEffects

open GlyphEffects.Number GlyphEffects.Text

/-- What a font says of its clusters: how wide each is before it is stretched. -/
structure Font where
  width : String → Float32

namespace Font

/-- The font in which every cell has one width. -/
def monospace (cell : Float32) : Font := ⟨fun s => ofCount (cells s) * cell⟩

/-- The font that gives the clusters of a list their widths, the first one if there are several,
and all others the same width. -/
def ofTable (rows : List (String × Float32)) (default : Float32) : Font :=
  ⟨fun s => (rows.lookup s).getD default⟩

/-- How far a piece moves the cursor. -/
def stride (f : Font) (p : Piece) : Float32 := f.width p.cluster * p.appearance.scale.x

/-- Where the cursor stands after some pieces. -/
def advance (f : Font) (cursor : Float32) (ps : List Piece) : Float32 :=
  ps.foldl (fun x p => x + f.stride p) cursor

/-- Sets pieces on the line. -/
def place (f : Font) (cursor : Float32) : List Piece → List Glyph
  | [] => []
  | p :: ps => ⟨p, cursor⟩ :: place f (cursor + f.stride p) ps

theorem advance_append (f : Font) (cursor : Float32) (ps qs : List Piece) :
    f.advance cursor (ps ++ qs) = f.advance (f.advance cursor ps) qs :=
  List.foldl_append

theorem place_append (f : Font) (cursor : Float32) (ps qs : List Piece) :
    f.place cursor (ps ++ qs) = f.place cursor ps ++ f.place (f.advance cursor ps) qs := by
  induction ps generalizing cursor with
  | nil => rfl
  | cons p ps ih => simp [place, advance, ih]

@[simp] theorem map_toPiece_place (f : Font) (cursor : Float32) (ps : List Piece) :
    (f.place cursor ps).map Glyph.toPiece = ps := by
  induction ps generalizing cursor with
  | nil => rfl
  | cons p ps ih => simp [place, ih]

end Font

end GlyphEffects
