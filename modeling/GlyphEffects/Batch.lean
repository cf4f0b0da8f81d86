import GlyphEffects.Glyph

/-! # Sinks and batches

A sink takes in glyphs, one after the other; it can be cleared and drawn. A batch is the sink that
keeps its glyphs and a record of every time it was drawn. Clearing it drops the glyphs and leaves
the record.

* `Placement` says where and how a whole sink is drawn.
* `Sink` is what takes in glyphs, and `Sink.addMany` hands it several.
* `Lent` is a sink that is kept elsewhere.
* `Batch.Command` is an operation on a sink as a value; `Sink.perform` and `Batch.perform` carry
  it out.
-/

namespace GlyphEffects

/-- Where and how a whole sink is drawn: moved, turned, stretched and slanted around an origin. -/
@[ext] structure Placement where
  position : Vec := ⟨0, 0⟩
  rotation : Float32 := 0
  scale : Vec := ⟨1, 1⟩
  origin : Vec := ⟨0, 0⟩
  skew : Vec := ⟨0, 0⟩
deriving DecidableEq

namespace Placement

/-- Drawing at a place, and otherwise as it is. -/
def movedTo (x y : Float32) : Placement := { position := ⟨x, y⟩ }

def withRotation (p : Placement) (angle : Float32) : Placement := { p with rotation := angle }

def withScale (p : Placement) (x y : Float32) : Placement := { p with scale := ⟨x, y⟩ }

def withOrigin (p : Placement) (x y : Float32) : Placement := { p with origin := ⟨x, y⟩ }

def withSkew (p : Placement) (x y : Float32) : Placement := { p with skew := ⟨x, y⟩ }

def toList (p : Placement) : List Float32 :=
  [p.position.x, p.position.y, p.rotation, p.scale.x, p.scale.y, p.origin.x, p.origin.y,
    p.skew.x, p.skew.y]

end Placement

/-- What takes in glyphs, drops them all, and is drawn. -/
class Sink (σ : Type) where
  clear : σ → σ
  add : σ → Glyph → σ
  draw : σ → Placement → σ

/-- Hands a sink several glyphs, in their order. -/
def Sink.addMany {σ : Type} [Sink σ] (x : σ) (gs : List Glyph) : σ := gs.foldl Sink.add x

/-- A sink that is kept elsewhere and is lent. What is done to it is done there. -/
@[ext] structure Lent (σ : Type) where
  kept : σ
deriving DecidableEq

instance {σ : Type} [Sink σ] : Sink (Lent σ) where
  clear x := ⟨Sink.clear x.kept⟩
  add x g := ⟨Sink.add x.kept g⟩
  draw x p := ⟨Sink.draw x.kept p⟩

/-- Glyphs that were taken in, and the placements with which they were drawn, oldest first. -/
@[ext] structure Batch where
  glyphs : List Glyph
  draws : List Placement
deriving DecidableEq

namespace Batch

def empty : Batch := ⟨[], []⟩

def add (b : Batch) (g : Glyph) : Batch := { b with glyphs := b.glyphs ++ [g] }

def addMany (b : Batch) (gs : List Glyph) : Batch := { b with glyphs := b.glyphs ++ gs }

/-- Drops all glyphs. -/
def clear (b : Batch) : Batch := { b with glyphs := [] }

def draw (b : Batch) (p : Placement) : Batch := { b with draws := b.draws ++ [p] }

def size (b : Batch) : Nat := b.glyphs.length

def isEmpty (b : Batch) : Bool := b.glyphs.isEmpty

theorem foldl_add (b : Batch) (gs : List Glyph) : gs.foldl add b = b.addMany gs := by
  induction gs generalizing b with
  | nil => simp [addMany]
  | cons g gs ih => simp [ih, add, addMany]

/-- A text is shown into a batch unless another sink is named. -/
@[default_instance] instance : Sink Batch := ⟨clear, add, draw⟩

@[simp] theorem addMany_eq (b : Batch) (gs : List Glyph) : Sink.addMany b gs = b.addMany gs :=
  foldl_add b gs

/-- An operation on a sink. -/
inductive Command
  | add (g : Glyph)
  | clear
  | draw (p : Placement)
deriving DecidableEq

end Batch

def Sink.perform {σ : Type} [Sink σ] (x : σ) : Batch.Command → σ
  | .add g => Sink.add x g
  | .clear => Sink.clear x
  | .draw p => Sink.draw x p

def Batch.perform (b : Batch) (c : Batch.Command) : Batch := Sink.perform b c

end GlyphEffects
