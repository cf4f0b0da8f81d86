import GlyphEffects.Number.Binary

/-! # Decimal literals

A literal is an optional minus sign, one or more digits, and optionally a point with one or more
digits after it. Digits are the ten of ASCII; there is no exponent and no plus sign.

* `Literal.read?` accepts exactly such a text.
* `Literal.spell` writes a literal down again.
* `Literal.toFloat?` is the nearest double-precision number, if that is finite.
-/

namespace GlyphEffects.Number

/-- A decimal literal as it is written; no fraction digits means no point. -/
structure Literal where
  negative : Bool
  whole : List Char
  fraction : List Char
deriving DecidableEq, Repr

namespace Literal

def spell (l : Literal) : List Char :=
  (if l.negative then ['-'] else []) ++ l.whole
    ++ (if l.fraction.isEmpty then [] else '.' :: l.fraction)

/-- A literal has digits before its point, and nothing but digits on either side. -/
def WellFormed (l : Literal) : Prop :=
  l.whole ≠ [] ∧ (∀ c ∈ l.whole, c.isDigit) ∧ ∀ c ∈ l.fraction, c.isDigit

/-- Reads the digits, the point and the digits that may follow a sign. -/
def readUnsigned? (negative : Bool) (s : List Char) : Option Literal :=
  let whole := s.takeWhile Char.isDigit
  if whole.isEmpty then none
  else
    match s.dropWhile Char.isDigit with
    | [] => some ⟨negative, whole, []⟩
    | '.' :: fraction =>
      if fraction.isEmpty || !fraction.all Char.isDigit then none
      else some ⟨negative, whole, fraction⟩
    | _ => none

/-- Reads a whole text as a literal. -/
def read? : List Char → Option Literal
  | '-' :: s => readUnsigned? true s
  | s => readUnsigned? false s

def ofDigits (ds : List Char) : Nat := ds.foldl (fun n c => 10 * n + (c.toNat - '0'.toNat)) 0

/-- The magnitude of a literal is `numerator / 10 ^ fraction.length`. -/
def numerator (l : Literal) : Nat := ofDigits (l.whole ++ l.fraction)

/-- The bit pattern of the magnitude nearest to the literal's. -/
def magnitude (l : Literal) : Nat :=
  Format.double.nearest l.numerator (Nat.pow 10 l.fraction.length)

/-- The double-precision number nearest to the literal, unless it is beyond the finite range. -/
def toFloat? (l : Literal) : Option Float :=
  if l.magnitude < Format.double.infinity then
    some (Float.ofBits (UInt64.ofNat ((if l.negative then Nat.pow 2 63 else 0) + l.magnitude)))
  else none

end Literal

/-- The number that a text denotes as a literal; none if it is no literal or not finite. -/
def ofLiteral? (s : List Char) : Option Float := (Literal.read? s).bind Literal.toFloat?

end GlyphEffects.Number
