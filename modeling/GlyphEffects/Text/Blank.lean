import GlyphEffects.Text.CodePoints

/-! # Blanks

Blanks are the characters with the property White_Space: the space, the tab, line ends and the
spaces of various widths. A zero-width space is none.

* `isBlank` decides the class.
* `trimStart`, `trimEnd` and `trim` take blanks off the ends of a text.
-/

namespace GlyphEffects.Text

/-- The code points of white space. -/
def blanks : CodePoints :=
  [(0x0009, 0x000D), (0x0020, 0x0020), (0x0085, 0x0085), (0x00A0, 0x00A0), (0x1680, 0x1680),
   (0x2000, 0x200A), (0x2028, 0x2029), (0x202F, 0x202F), (0x205F, 0x205F), (0x3000, 0x3000)]

def isBlank (c : Char) : Bool := blanks.has c

def trimStart (s : List Char) : List Char := s.dropWhile isBlank

def trimEnd (s : List Char) : List Char := (s.reverse.dropWhile isBlank).reverse

/-- A text without the blanks at both ends. -/
def trim (s : List Char) : List Char := trimEnd (trimStart s)

example : isBlank '\u0085' ∧ isBlank '\u2003' ∧ !isBlank '\u200b' := by decide

end GlyphEffects.Text
