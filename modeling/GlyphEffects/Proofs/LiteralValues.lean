import Mathlib
import GlyphEffects.Proofs.Numerals

/-! # The values of literals

A text is read as a number if it is a literal and the rational number which that literal denotes is
less than half-way from the greatest finite double-precision number to the next power of two. The
number read is then the nearest one, and it is negative if the literal has a minus sign. How many
digits the literal has makes no difference.

* `Literal.toRat`: the rational number that a literal denotes.
* `Literal.read?_eq_some_iff`: the texts that are literals.
* `Literal.magnitude_lt_iff`: which literals are within the finite range.
* `ofLiteral?_eq_some_iff_roundsTo`: **which texts are read as numbers, and as which.**
-/

namespace GlyphEffects.Number

namespace Literal

/-! ## The number that a literal denotes -/

/-- The number that a digit stands for. -/
def digitValue (c : Char) : Nat := c.toNat - '0'.toNat

/-- Each digit after the point counts a tenth of what it would count one place before. -/
def fractionValue : List Char → ℚ
  | [] => 0
  | c :: cs => (digitValue c + fractionValue cs) / 10

/-- The rational number that a literal denotes. -/
def toRat (l : Literal) : ℚ :=
  signed l.negative
    ((Nat.ofDigits 10 (l.whole.reverse.map digitValue) : Nat) + fractionValue l.fraction)

theorem ofDigits_concat (ds : List Char) (c : Char) :
    ofDigits (ds ++ [c]) = 10 * ofDigits ds + digitValue c := by
  rw [ofDigits, List.foldl_append]
  rfl

theorem ofDigits_eq (ds : List Char) :
    ofDigits ds = Nat.ofDigits 10 (ds.reverse.map digitValue) := by
  induction ds using List.reverseRecOn with
  | nil => rfl
  | append_singleton ds c ih =>
    rw [ofDigits_concat, ih, List.reverse_concat, List.map_cons, Nat.ofDigits_cons, Nat.add_comm]

theorem ofDigits_append (ds es : List Char) :
    ofDigits (ds ++ es) = 10 ^ es.length * ofDigits ds + ofDigits es := by
  rw [ofDigits_eq, ofDigits_eq, ofDigits_eq, List.reverse_append, List.map_append,
    Nat.ofDigits_append, List.length_map, List.length_reverse, Nat.add_comm]

theorem fractionValue_eq (ds : List Char) : fractionValue ds = ofDigits ds / 10 ^ ds.length := by
  induction ds with
  | nil => simp [fractionValue, ofDigits]
  | cons c cs ih =>
    have hcons : ofDigits (c :: cs) = 10 ^ cs.length * digitValue c + ofDigits cs := by
      have happend := ofDigits_append [c] cs
      rwa [show ofDigits [c] = digitValue c by simp [ofDigits, digitValue]] at happend
    rw [fractionValue, ih, hcons, List.length_cons, pow_succ]
    push_cast
    field_simp

/-- A literal denotes a fraction whose denominator is a power of ten. -/
theorem toRat_eq (l : Literal) :
    l.toRat = signed l.negative (l.numerator / (10 ^ l.fraction.length : Nat)) := by
  rw [toRat, fractionValue_eq, ← ofDigits_eq, numerator, ofDigits_append]
  congr 1
  push_cast
  field_simp

theorem abs_toRat (l : Literal) : |l.toRat| = l.numerator / (10 ^ l.fraction.length : Nat) := by
  rw [toRat_eq, abs_signed (by positivity)]

/-! ## The texts that are literals -/

/-- What is read after a sign is as it was written. -/
theorem eq_of_readUnsigned? {negative : Bool} {s : List Char} {l : Literal}
    (h : readUnsigned? negative s = some l) :
    l.WellFormed ∧ l.negative = negative ∧
      s = l.whole ++ if l.fraction.isEmpty then [] else '.' :: l.fraction := by
  have hwhole : ∀ c ∈ s.takeWhile Char.isDigit, c.isDigit := fun c => List.mem_takeWhile_imp
  have hs : s = s.takeWhile Char.isDigit ++ s.dropWhile Char.isDigit :=
    List.takeWhile_append_dropWhile.symm
  unfold readUnsigned? at h
  simp only [Option.ite_none_left_eq_some, List.isEmpty_iff] at h
  obtain ⟨hne, h⟩ := h
  split at h
  next hrest =>
    cases h
    rw [hrest] at hs
    exact ⟨⟨hne, hwhole, List.forall_mem_nil _⟩, rfl, hs⟩
  next fraction hrest =>
    rw [Option.ite_none_left_eq_some] at h
    obtain ⟨hdigits, h⟩ := h
    cases h
    rw [hrest] at hs
    rw [Bool.or_eq_true, not_or, Bool.not_eq_true, Bool.not_eq_true, Bool.not_eq_false',
      List.all_eq_true] at hdigits
    exact ⟨⟨hne, hwhole, hdigits.2⟩, rfl, by rw [hdigits.1]; exact hs⟩
  next => cases h

theorem read?_eq_some_iff {s : List Char} {l : Literal} :
    read? s = some l ↔ l.WellFormed ∧ s = l.spell := by
  constructor
  · intro h
    unfold read? at h
    split at h
    all_goals
      obtain ⟨hwell, hsign, hs⟩ := eq_of_readUnsigned? h
      refine ⟨hwell, ?_⟩
      rw [spell, hsign]
      simpa using hs
  · rintro ⟨hwell, rfl⟩
    exact read?_spell hwell

/-! ## The finite range -/

/-- The last finite magnitude and the next power of two: half-way between them lies the number that
is no longer rounded to a finite one. -/
theorem units_infinity_add :
    (Format.double.units (Format.double.infinity - 1) : ℚ) +
      Format.double.units (Format.double.infinity - 1 + 1) =
        2 * ((2 ^ 1024 - 2 ^ 970) * 2 ^ 1074) := by
  have hlast : Format.double.Place (Format.double.infinity - 1) 2045 (2 ^ 53 - 1) := by
    refine ⟨?_, ?_, .inr ?_⟩ <;> decide
  have hnext : Format.double.Place (Format.double.infinity - 1 + 1) 2045 (2 ^ 53) := by
    refine ⟨?_, ?_, .inr ?_⟩ <;> decide
  have hpower : (2 : ℚ) ^ 1024 = 2 ^ 54 * 2 ^ 970 := by
    rw [← pow_add]
  have hwidth : (2 : ℚ) ^ 2045 = 2 * (2 ^ 970 * 2 ^ 1074) := by
    rw [← pow_add, ← pow_succ']
  rw [hlast.units_eq, hnext.units_eq, ← Nat.cast_add, ← Nat.add_mul, Nat.cast_mul, Nat.cast_pow,
    Nat.cast_ofNat, hwidth, hpower]
  generalize (2 : ℚ) ^ 970 = p
  generalize (2 : ℚ) ^ 1074 = r
  norm_num
  ring

/-- The pattern that is nearest to the magnitude of a literal, as if there were no infinity. -/
def mark (l : Literal) : Nat :=
  Format.double.mark (l.numerator * 2 ^ Format.double.scale) (10 ^ l.fraction.length)

theorem magnitude_eq (l : Literal) : l.magnitude = min Format.double.infinity l.mark :=
  Format.double.nearest_eq_min _ _

theorem isNearest_mark (l : Literal) :
    Format.double.IsNearest (|l.toRat| * 2 ^ Format.double.scale) l.mark := by
  have h := Format.double.isNearest_mark (l.numerator * 2 ^ Format.double.scale)
    (Nat.pow_pos (n := l.fraction.length) (by decide : 0 < 10)) (by decide)
  rwa [Nat.cast_mul, Nat.cast_pow, mul_div_right_comm, ← abs_toRat] at h

/-- A literal is within the finite range if it is below the half-way point. -/
theorem mark_lt_iff (l : Literal) :
    l.mark < Format.double.infinity ↔ |l.toRat| < 2 ^ 1024 - 2 ^ 970 := by
  have hpos : 0 < Format.double.infinity := by decide
  rw [← Nat.le_sub_one_iff_lt hpos, l.isNearest_mark.le_iff (by decide), units_infinity_add,
    mul_lt_mul_iff_right₀ two_pos]
  exact mul_lt_mul_iff_left₀ (by positivity)

theorem magnitude_lt_iff (l : Literal) :
    l.magnitude < Format.double.infinity ↔ |l.toRat| < 2 ^ 1024 - 2 ^ 970 := by
  rw [magnitude_eq, min_lt_iff, mark_lt_iff, or_iff_right (lt_irrefl _)]

/-! ## The number that is read -/

section Value

variable {l : Literal} (h : l.magnitude < Format.double.infinity)

include h

theorem signBit_value : signBit l.value = l.negative := signBit_ofMagnitude h

theorem magnitudeBits_value : magnitudeBits l.value = l.mark := by
  have hmark : l.magnitude = l.mark := by
    rw [magnitude_eq] at h ⊢
    omega
  exact (magnitudeBits_ofMagnitude h).trans hmark

/-- The number that a literal within the finite range is read as is the nearest one. -/
theorem roundsTo_value_iff {x : Float} : RoundsTo x l.negative l.toRat ↔ x = l.value := by
  have hsign := signBit_value h
  have hfinite := l.isFinite_value_iff.2 h
  have hnearest := l.isNearest_mark
  rw [← magnitudeBits_value h] at hnearest
  have hrat : l.toRat = signed (signBit l.value) |l.toRat| := by
    rw [hsign, abs_toRat, ← toRat_eq]
  constructor
  · intro hx
    rw [hrat, ← hsign] at hx
    exact hx.eq_of_isNearest hfinite hnearest
  · rintro rfl
    have hrounds := roundsTo_of_isNearest hfinite hnearest (abs_nonneg _)
    rwa [← hrat, hsign] at hrounds

end Value

/-- A literal is read as the nearest number if it is within the finite range. -/
theorem toFloat?_eq_some_iff {l : Literal} {x : Float} :
    l.toFloat? = some x ↔ |l.toRat| < 2 ^ 1024 - 2 ^ 970 ∧ RoundsTo x l.negative l.toRat := by
  rw [toFloat?_eq, Option.ite_none_right_eq_some, ← magnitude_lt_iff, Option.some_inj]
  refine and_congr_right fun h => ?_
  rw [roundsTo_value_iff h, eq_comm]

end Literal

/-- **Which texts are read as numbers, and as which.** A text is read if it is a literal that
denotes a number below the half-way point after the finite range, and it is read as `x` if `x` is
nearest to that number. -/
theorem ofLiteral?_eq_some_iff_roundsTo (s : List Char) :
    ((∃ x, ofLiteral? s = some x) ↔
      ∃ l : Literal, l.WellFormed ∧ s = l.spell ∧ |l.toRat| < 2 ^ 1024 - 2 ^ 970) ∧
    ∀ l : Literal, l.WellFormed → s = l.spell → ∀ x,
      (ofLiteral? s = some x ↔
        |l.toRat| < 2 ^ 1024 - 2 ^ 970 ∧ RoundsTo x l.negative l.toRat) := by
  have hread : ∀ l : Literal, l.WellFormed → s = l.spell → ofLiteral? s = l.toFloat? :=
    fun l hwell hs => by
      rw [ofLiteral?, Literal.read?_eq_some_iff.2 ⟨hwell, hs⟩, Option.bind_some]
  refine ⟨⟨?_, ?_⟩, fun l hwell hs x => ?_⟩
  · rintro ⟨x, hx⟩
    obtain ⟨l, hl, hx⟩ := Option.bind_eq_some_iff.1 hx
    obtain ⟨hwell, hs⟩ := Literal.read?_eq_some_iff.1 hl
    exact ⟨l, hwell, hs, (Literal.toFloat?_eq_some_iff.1 hx).1⟩
  · rintro ⟨l, hwell, hs, hlt⟩
    rw [hread l hwell hs, Literal.toFloat?_eq, if_pos (l.magnitude_lt_iff.2 hlt)]
    exact ⟨_, rfl⟩
  · rw [hread l hwell hs, Literal.toFloat?_eq_some_iff]

example : ["3.", ".5", "+1", "1e5", "1.2.3", " 1", "\u0663"].all fun s =>
    (ofLiteral? s.toList).isNone := by decide

end GlyphEffects.Number
