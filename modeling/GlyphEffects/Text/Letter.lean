import GlyphEffects.Text.LetterRanges

/-! # Letters and word characters

Letters are the characters with the property Alphabetic, which holds letters of every script and
the vowel signs that go with them. Word characters are letters, numbers and the underscore.

* `isLetter` and `isWordChar` decide the two classes.
* `isWordChar_of_isLetter` says that a letter is a word character.
-/

namespace GlyphEffects.Text

/-- Whether a character is a letter of some script. -/
def isLetter (c : Char) : Bool :=
  if c.toNat < 0x80 then c.isAlpha
  else lowLetters.has c || middleLetters.has c || highLetters.has c

/-- Whether a character is a decimal digit or another number. -/
def isNumber (c : Char) : Bool :=
  if c.toNat < 0x80 then c.isDigit else numbers.has c

/-- Whether a character may stand in the key of an argument. -/
def isWordChar (c : Char) : Bool := isLetter c || isNumber c || c = '_'

theorem isWordChar_of_isLetter {c : Char} (h : isLetter c) : isWordChar c := by
  simp [isWordChar, h]

end GlyphEffects.Text
