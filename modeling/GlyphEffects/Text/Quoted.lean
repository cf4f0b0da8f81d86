import GlyphEffects.Text.HiddenRanges

/-! # Quoted text

A text is quoted between double quotes. The quote and the backslash are written with a backslash
before them, and so are the letters that stand for a tab, a line end and a null character. A
character that extends what stands before it or has no form to print is written as its code point
in hexadecimal digits between braces.

* `isPrintable` and `isHidden` decide which characters stand for themselves. Those of ASCII do, from
  the space on (`isHidden_of_ascii`).
* `quoted` is the quoted text.
-/

namespace GlyphEffects.Text

/-- Whether a character has a form to print: it is the space, or it is assigned for all to use and
no control, format sign or separator. -/
def isPrintable (c : Char) : Bool :=
  c = ' ' ||
    !(controlCodes.has c || formats.has c || privateUse.has c || separators.has c ||
      lowUnassigned.has c || middleUnassigned.has c || highUnassigned.has c)

/-- Whether a character does not show when it stands for itself. -/
def isHidden (c : Char) : Bool := extenders.has c || !isPrintable c

theorem isHidden_of_ascii {c : Char} (hlo : 0x20 ≤ c.toNat) (hhi : c.toNat < 0x7F) :
    isHidden c = false := by
  have hextenders : extenders.has c = false := CodePoints.has_eq_false (by decide +kernel) hhi
  have hcontrol : controlCodes.has c = false := by
    simp [CodePoints.has, controlCodes]
    omega
  have hformats : formats.has c = false := CodePoints.has_eq_false (by decide) hhi
  have hprivate : privateUse.has c = false := CodePoints.has_eq_false (by decide) hhi
  have hlow : lowUnassigned.has c = false := CodePoints.has_eq_false (by decide +kernel) hhi
  have hmiddle : middleUnassigned.has c = false := CodePoints.has_eq_false (by decide +kernel) hhi
  have hhigh : highUnassigned.has c = false := CodePoints.has_eq_false (by decide +kernel) hhi
  rw [isHidden, isPrintable, hextenders, hcontrol, hformats, hprivate, hlow, hmiddle, hhigh]
  by_cases hspace : c = ' '
  · rw [hspace]
    rfl
  · have hne : c.toNat ≠ 0x20 := fun e => hspace (Char.toNat_inj.1 e)
    have hseparators : separators.has c = false := by
      simp [CodePoints.has, separators]
      omega
    rw [hseparators]
    simp

/-- A character as it stands between the quotes. -/
def quotedChar (c : Char) : List Char :=
  if c = '"' ∨ c = '\\' then ['\\', c]
  else if c = '\t' then ['\\', 't']
  else if c = '\r' then ['\\', 'r']
  else if c = '\n' then ['\\', 'n']
  else if c.toNat = 0 then ['\\', '0']
  else if isHidden c then ['\\', 'u', '\x7b'] ++ Nat.toDigits 16 c.toNat ++ ['\x7d']
  else [c]

/-- A text between quotes. -/
def quoted (s : String) : String := String.ofList ('"' :: s.toList.flatMap quotedChar ++ ['"'])

example : quoted "👍🏻 e\u0301\u00a0\ue0b0\u0378" =
    "\"👍🏻 e\\u\x7b301\x7d\\u\x7ba0\x7d\\u\x7be0b0\x7d\\u\x7b378\x7d\"" := by decide +kernel

end GlyphEffects.Text
