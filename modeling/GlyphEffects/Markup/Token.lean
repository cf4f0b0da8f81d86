import GlyphEffects.Markup.Arguments

/-! # Tokens

A format text says three things: show this text, switch an effect on, switch an effect off.

* `Token` is one of them.
* `InvalidArgument` is the one fault that a format text can have: the value of an argument is no
  number.
-/

namespace GlyphEffects.Markup

/-- One thing that a format text says. -/
inductive Token
  | text (content : String)
  | opening (name : String) (arguments : Arguments)
  | closing (name : String)

namespace Token

/-- An opening tag whose arguments carry its own name. -/
def openingWith (name : String) (pairs : List (String × Float)) : Token :=
  opening name ((Arguments.named name).insertMany pairs)

def isText : Token → Bool
  | text _ => true
  | _ => false

def name? : Token → Option String
  | text _ => none
  | opening name _ => some name
  | closing name => some name

end Token

/-- An argument whose value is no number. -/
structure InvalidArgument where
  key : String
  value : String
deriving DecidableEq, Repr

def InvalidArgument.message (e : InvalidArgument) : String :=
  "invalid value for argument `" ++ e.key ++ "`: `" ++ e.value ++ "` is not a number"

end GlyphEffects.Markup
