import GlyphEffects.Markup.Token
import GlyphEffects.Number.Literal
import GlyphEffects.Text.Blank
import GlyphEffects.Text.Delimiter
import GlyphEffects.Text.Letter

/-! # Tags

What stands between two braces is read as a tag. A slash makes it a closing tag, whose name is the
run of letters after the slash; all else is an opening tag, whose name is the run of letters at its
start. An opening tag is cut at its commas, and every segment of the form `key=value` is an
argument, the first segment too: there the key is the name of the tag. Spaces and tabs may stand
around the key and any blanks around the value. A segment of another form says nothing.

* `Tag.read` reads a tag.
* `Tag.pair?` reads one segment.
-/

namespace GlyphEffects.Markup.Tag

open GlyphEffects.Text GlyphEffects.Number

/-- The segments of a text between its commas. -/
def segments (s : List Char) : List (List Char) :=
  match _h : onward ',' s with
  | [] => [s]
  | _ :: rest => before ',' s :: segments rest
termination_by s.length
decreasing_by exact length_lt_of_onward _h

def isGap (c : Char) : Bool := c = ' ' || c = '\t'

/-- The key and the value of a segment, if it has the form of an argument. -/
def pair? (segment : List Char) : Option (List Char × List Char) :=
  let s := segment.dropWhile isGap
  let key := s.takeWhile isWordChar
  if key.isEmpty then none
  else
    match (s.dropWhile isWordChar).dropWhile isGap with
    | '=' :: value => some (key, trim value)
    | _ => none

/-- The keys and values of an opening tag, in the order in which they are written. -/
def pairs (s : List Char) : List (List Char × List Char) := (segments s).filterMap pair?

/-- The run of letters at the start of a text. -/
def nameOf (s : List Char) : String := String.ofList (s.takeWhile isLetter)

def addPair (a : Arguments) (p : List Char × List Char) : Except InvalidArgument Arguments :=
  match ofLiteral? p.2 with
  | some x => .ok (a.insert (String.ofList p.1) x)
  | none => .error ⟨String.ofList p.1, String.ofList p.2⟩

/-- The arguments of an opening tag; the first value that is no number is a fault. -/
def arguments (s : List Char) : Except InvalidArgument Arguments :=
  (pairs s).foldlM addPair (Arguments.named (nameOf s))

/-- Reads what stands between two braces. -/
def read (body : List Char) : Except InvalidArgument Token :=
  match trim body with
  | '/' :: rest => .ok (.closing (nameOf (trimStart rest)))
  | s => (arguments s).map (.opening (nameOf s))

end GlyphEffects.Markup.Tag
