import GlyphEffects.Appearance

/-! # Settings

What one may choose about the way a text is shown.

* `Settings` holds the choices.
-/

namespace GlyphEffects

/-- The appearance from which every cluster starts, and whether tags that are still open at the
end of the text are worth a warning. -/
@[ext] structure Settings where
  base : Appearance := .plain
  warnLeftOpen : Bool := true
deriving DecidableEq

end GlyphEffects
