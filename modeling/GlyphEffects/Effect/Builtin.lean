import GlyphEffects.Effect
import GlyphEffects.Effect.Jitter

/-! # Built-in effects

Nine effects that every text can use. Each sets or changes one part of the appearance: the color
(`color`, `alpha`, `rainbow`), the offset (`offset`, `wave`, `shake`), the scale (`scale`), the
skew (`skew`) or the rotation (`rotate`). They look at where a cluster stands in its run and never
at the cluster itself.

* `Effect.builtins` lists them in the order in which they are registered.
-/

namespace GlyphEffects.Effect

open GlyphEffects.Markup GlyphEffects.Number

/-- The number of a key in single precision. -/
def argument (args : Arguments) (key : String) (default : Float) : Float32 :=
  narrow (args.getD key default)

/-- The main number in single precision. -/
def mainArgument (args : Arguments) (default : Float) : Float32 :=
  narrow (args.main?.getD default)

/-- Sets the color; a component that is not given is 1. -/
def color : Effect where
  name := "color"
  transform args _ a :=
    { a with
      color :=
        ⟨argument args "r" 1, argument args "g" 1, argument args "b" 1, argument args "a" 1⟩ }

def alpha : Effect where
  name := "alpha"
  transform args _ a :=
    { a with color := { a.color with alpha := a.color.alpha * mainArgument args 1 } }

def offset : Effect where
  name := "offset"
  transform args _ a :=
    { a with
      offset := ⟨a.offset.x + argument args "x" 0, a.offset.y + argument args "y" 0⟩ }

/-- Stretches the glyph; the main number is for the axes that are not given. -/
def scale : Effect where
  name := "scale"
  transform args _ a :=
    let uniform := args.main?.getD 1
    { a with
      scale := ⟨a.scale.x * argument args "x" uniform, a.scale.y * argument args "y" uniform⟩ }

def rotate : Effect where
  name := "rotate"
  transform args _ a := { a with rotation := a.rotation + mainArgument args 0 }

def skew : Effect where
  name := "skew"
  transform args _ a :=
    { a with skew := ⟨a.skew.x + argument args "x" 0, a.skew.y + argument args "y" 0⟩ }

/-- Moves the glyphs of a run up and down along a sine. -/
def wave : Effect where
  name := "wave"
  transform args p a :=
    let phase := ofCount p.index * argument args "frequency" 0.5
    { a with offset := { a.offset with y := a.offset.y + mainArgument args 2 * phase.sin } }

/-- Moves each glyph of a run to a place of its own, which the seed decides. -/
def shake : Effect where
  name := "shake"
  transform args p a :=
    let bits := scramble (wholeWord (args.getD "seed" 0) ^^^ UInt64.ofNat p.index)
    let amplitude := mainArgument args 1
    { a with
      offset :=
        ⟨a.offset.x + amplitude * jitter bits.toUInt32,
          a.offset.y + amplitude * jitter (bits >>> 32).toUInt32⟩ }

/-- How many glyphs a rainbow takes for all hues: at least one, and those of the run if nothing
else is given. -/
def period (args : Arguments) (length : Nat) : Float32 :=
  let wanted := (args.main?.map Float.abs).getD (UInt64.ofNat length).toFloat
  narrow (if 1 ≤ wanted then wanted else 1)

/-- Gives each glyph of a run a hue of its own and keeps its alpha. -/
def rainbow : Effect where
  name := "rainbow"
  transform args p a :=
    let hue := ofCount (p.index - 1) / period args p.length
    { a with color := { Color.ofHsv hue 1 1 with alpha := a.color.alpha } }

def builtins : List Effect :=
  [color, alpha, offset, scale, rotate, skew, wave, shake, rainbow]

end GlyphEffects.Effect
