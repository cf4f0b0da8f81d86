/-! # Colors

A color has red, green, blue and alpha, all in single precision and not limited to a range.

* `Color.white` is the color that text has by itself.
* `Color.ofHsv` makes an opaque color from hue, saturation and value.
-/

namespace GlyphEffects

/-- A color with an alpha component. -/
@[ext] structure Color where
  red : Float32
  green : Float32
  blue : Float32
  alpha : Float32
deriving DecidableEq

namespace Color

def white : Color := ⟨1, 1, 1, 1⟩

/-- The opaque color of a hue, a saturation and a value. A whole turn of hue is 1, and only the
part of the hue above a whole number counts; each of the six sectors of a turn goes from one pure
color to the next. -/
def ofHsv (hue saturation value : Float32) : Color :=
  let sixths := (hue - hue.floor) * 6
  let chroma := value * saturation
  let ramp := chroma * (1 - (sixths - 2 * (sixths / 2).floor - 1).abs)
  let gray := value - chroma
  let (r, g, b) : Float32 × Float32 × Float32 :=
    match sixths.toUInt32.toNat with
    | 0 => (chroma, ramp, 0)
    | 1 => (ramp, chroma, 0)
    | 2 => (0, chroma, ramp)
    | 3 => (0, ramp, chroma)
    | 4 => (ramp, 0, chroma)
    | _ => (chroma, 0, ramp)
  ⟨r + gray, g + gray, b + gray, 1⟩

end Color

end GlyphEffects
