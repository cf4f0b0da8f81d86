import GlyphEffects.Text.Delimiter

/-! # Spans

A format text is cut into spans. An opening brace and the next closing brace enclose a braced
span, whatever stands between them; the text up to the next opening brace is a plain span. An
opening brace that no closing brace follows makes all that is left one plain span.

* `Span.split` cuts a text into spans.
* `Span.spell` writes a span down again.
* `Span.flatMap_spell_split` says that nothing is lost.
-/

namespace GlyphEffects.Markup

open GlyphEffects.Text

/-- A stretch of a format text: plain text, or what stands between two braces. -/
inductive Span
  | plain (text : List Char)
  | braced (body : List Char)
deriving DecidableEq, Repr

namespace Span

def spell : Span → List Char
  | plain text => text
  | braced body => '{' :: body ++ ['}']

/-- Cuts a text into spans. -/
def split : List Char → List Span
  | [] => []
  | c :: cs =>
    if c = '{' then
      match _h : onward '}' cs with
      | [] => [plain (c :: cs)]
      | _ :: rest => braced (before '}' cs) :: split rest
    else plain (c :: before '{' cs) :: split (onward '{' cs)
termination_by s => s.length
decreasing_by
  · exact Nat.lt_succ_of_lt (length_lt_of_onward _h)
  · exact Nat.lt_succ_of_le (length_onward_le '{' cs)

/-- Nothing of a text is lost, repeated or moved by cutting it. -/
theorem flatMap_spell_split (s : List Char) : (split s).flatMap spell = s := by
  fun_induction split s with
  | case1 => rfl
  | case2 cs h => simp [spell]
  | case3 cs d rest h ih =>
    have := before_append_onward '}' cs
    rw [h, eq_of_onward_eq_cons h] at this
    simp [spell, ih, this]
  | case4 c cs hc ih => simp [spell, ih, before_append_onward]

end Span

end GlyphEffects.Markup
