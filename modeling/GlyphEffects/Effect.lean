import GlyphEffects.Appearance
import GlyphEffects.Markup.Arguments
import GlyphEffects.Text.Quoted

/-! # Effects

An effect changes how a glyph looks. It is given the arguments of the tag that switched it on and
the position of the glyph within its run, and it does the same on the same arguments, position and
appearance.

* `Effect` is a named change of appearance.
* `Effect.describe` is a short text about it.
-/

namespace GlyphEffects

open GlyphEffects.Markup GlyphEffects.Text

/-- A named change of appearance. -/
structure Effect where
  name : String
  transform : Arguments → Position → Appearance → Appearance

/-- The name of an effect, within the words that say what it names. -/
def Effect.describe (e : Effect) : String :=
  "EffectDefinition \x7b name: " ++ quoted e.name ++ ", .. \x7d"

end GlyphEffects
