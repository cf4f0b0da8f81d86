import GlyphEffects.Markup.Span
import GlyphEffects.Markup.Tag

/-! # Reading a format text

A format text is cut into spans; braced spans are read as tags, and plain spans that follow each
other become one text. The first tag with a fault is the fault of the whole.

* `parse` reads a format text as tokens.
* `strip` is the format text without its tags, be they right or wrong.
* `Source.tokens` reads what is given either as a format text or as tokens.
-/

namespace GlyphEffects.Markup

/-- Puts text in front of tokens; it joins a text that already stands there. -/
def consText (text : List Char) (tokens : List Token) : List Token :=
  if text.isEmpty then tokens
  else
    match tokens with
    | .text content :: rest => .text (String.ofList text ++ content) :: rest
    | _ => .text (String.ofList text) :: tokens

def ofSpans : List Span → Except InvalidArgument (List Token)
  | [] => .ok []
  | .plain text :: spans => (ofSpans spans).map (consText text)
  | .braced body :: spans => do
    let token ← Tag.read body
    let tokens ← ofSpans spans
    return token :: tokens

def parse (s : String) : Except InvalidArgument (List Token) := ofSpans (Span.split s.toList)

def plainOf : Span → List Char
  | .plain text => text
  | .braced _ => []

/-- The format text without its tags. -/
def strip (s : String) : String := String.ofList ((Span.split s.toList).flatMap plainOf)

/-- What a text to show is given as. -/
inductive Source
  | format (s : String)
  | tokens (ts : List Token)

/-- The tokens of a source; only a format text can have a fault. -/
def Source.read : Source → Except InvalidArgument (List Token)
  | format s => parse s
  | tokens ts => .ok ts

end GlyphEffects.Markup
