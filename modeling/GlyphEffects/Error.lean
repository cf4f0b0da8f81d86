import GlyphEffects.Markup.Token

/-! # Errors

Why a text is not shown, or an effect not registered.

* `Error` lists the causes.
* `Error.message` is the text of each.
-/

namespace GlyphEffects

open GlyphEffects.Markup

/-- What can go wrong. -/
inductive Error
  | markup (fault : InvalidArgument)
  | duplicateEffect (name : String)
  | unknownEffect (name : String)
  | unmatchedClose (name : String)
deriving DecidableEq, Repr

def Error.message : Error → String
  | markup fault => "Markup error: " ++ fault.message
  | duplicateEffect name => "Effect `" ++ name ++ "` is already registered"
  | unknownEffect name =>
    "Unknown effect `" ++ name ++ "`: no effect with that name is registered"
  | unmatchedClose name => "Close tag `\x7b/" ++ name ++ "\x7d` has no matching open tag"

end GlyphEffects
