import Mathlib
import GlyphEffects.Proofs.Rounding

/-! # Double-precision numbers as signed magnitudes

The bit pattern of a double-precision number is a sign bit before the bit pattern of a magnitude.
The number that the standard decoder reads off a finite pattern is that magnitude with that sign,
and a finite pattern is kept when a number is made of it.

* `rational`: the rational number that a finite number is.
* `isFinite_iff`: a number is finite if the pattern of its magnitude is below that of infinity.
* `toBits_ofBits`: the pattern of a finite number is the one it was made of.
* `eq_of_magnitudeBits`: a number is known by its sign and the pattern of its magnitude.
* `rational_eq`: **a finite number is its magnitude with its sign.**
* `ofMagnitude`: the number with a sign and the pattern of a magnitude.
* `toNat_wholeWord`: an integer is its own whole part, and `exists_rational_eq`: the integers up to
  `2 ^ 53` are numbers.
* `RoundsTo`: a finite number is the one to which a rational number is rounded, as the definition of
  rounding has it: none is nearer, and of two that are as near it is the even one.
* `roundsTo_of_isNearest` and `RoundsTo.eq_of_isNearest`: a rational number is rounded to the number
  with its sign and its nearest magnitude, and to no other.
-/

namespace GlyphEffects.Number

open Float.Model.UnpackedFloat

/-- The rational number of a sign, a mantissa and an exponent; zero without them. -/
def unpackedRational : Float.Model.UnpackedFloat → ℚ
  | .finite s m e _ => s.apply m * 2 ^ e
  | _ => 0

/-- The rational number that a finite number is. -/
def rational (x : Float) : ℚ := unpackedRational x.toModel.unpack

/-- The sign bit, which is the highest one. -/
def signBit (x : Float) : Bool := decide (2 ^ 63 ≤ x.toBits.toNat)

/-- The bit pattern of the magnitude. -/
def magnitudeBits (x : Float) : Nat := x.toBits.toNat % 2 ^ 63

/-- The magnitude with a bit pattern; the least positive one is `2 ^ -1074`. -/
def magnitudeOf (bits : Nat) : ℚ := Format.double.units bits / 2 ^ 1074

theorem infinity_double : Format.double.infinity = 2047 * 2 ^ 52 := by decide

/-! ## The fields of a pattern -/

section Fields

theorem ne_neg_one_iff {w : Nat} {x : BitVec w} : x ≠ -1#w ↔ x.toNat + 1 < 2 ^ w := by
  have hlt := x.isLt
  have hiff : x = -1#w ↔ x.toNat = 2 ^ w - 1 := by
    rw [BitVec.neg_one_eq_allOnes, ← BitVec.toNat_inj, BitVec.toNat_allOnes]
  rw [ne_eq, hiff]
  omega

/-- A pattern is finite if its exponent is not all ones. -/
theorem isFinite_unpack {f : Float.Model.Format} {b : BitVec f.numBits}
    (h : unpackExponent b ≠ -1#_) : (unpack f b).isFinite := by
  unfold unpack
  rw [if_neg h]
  split
  · split <;> rfl
  · rfl

theorem toNat_append_eq_add {m n : Nat} (x : BitVec m) (y : BitVec n) :
    (x ++ y).toNat = x.toNat * 2 ^ n + y.toNat := by
  rw [BitVec.toNat_append, ← Nat.shiftLeft_add_eq_or_of_lt y.isLt, Nat.shiftLeft_eq]

variable {b : BitVec Float.Model.Format.binary64.numBits}

theorem toNat_unpackMantissa : (unpackMantissa b).toNat = b.toNat % 2 ^ 52 := by
  rw [unpackMantissa, BitVec.toNat_cast, BitVec.extractLsb_toNat]
  rfl

theorem toNat_unpackExponent : (unpackExponent b).toNat = b.toNat / 2 ^ 52 % 2 ^ 11 := by
  rw [unpackExponent, BitVec.toNat_cast, BitVec.extractLsb_toNat, Nat.shiftRight_eq_div_pow]
  rfl

theorem toNat_unpackSign : (unpackSign b).toNat = b.toNat / 2 ^ 63 := by
  have hb : b.toNat < 2 ^ 64 := b.isLt
  have hfield : (unpackSign b).toNat = b.toNat / 2 ^ 63 % 2 ^ 1 := by
    rw [unpackSign, BitVec.toNat_cast, BitVec.extractLsb_toNat, Nat.shiftRight_eq_div_pow]
    rfl
  omega

/-- A pattern is made of its fields. -/
theorem packComponents_unpack :
    packComponents Float.Model.Format.binary64 (Sign.ofBitVec (unpackSign b)) (unpackExponent b)
      (unpackMantissa b) = b := by
  refine BitVec.eq_of_toNat_eq ?_
  rw [packComponents, toNat_append_eq_add, toNat_append_eq_add, Sign.toBitVec_ofBitVec,
    toNat_unpackSign, toNat_unpackExponent, toNat_unpackMantissa]
  show (b.toNat / 2 ^ 63 * 2 ^ 11 + b.toNat / 2 ^ 52 % 2 ^ 11) * 2 ^ 52 + b.toNat % 2 ^ 52 = _
  omega

theorem ofBitVec_unpackSign :
    Sign.ofBitVec (unpackSign b) = if 2 ^ 63 ≤ b.toNat then .negative else .positive := by
  have hb : b.toNat < 2 ^ 64 := b.isLt
  have hsign := @toNat_unpackSign b
  unfold Sign.ofBitVec
  by_cases h : 2 ^ 63 ≤ b.toNat
  · rw [if_pos h, if_neg]
    intro hzero
    rw [hzero, BitVec.toNat_zero] at hsign
    omega
  · rw [if_neg h, if_pos]
    refine BitVec.eq_of_toNat_eq ?_
    rw [hsign, BitVec.toNat_zero]
    omega

/-- The magnitude is the exponent before the mantissa. -/
theorem magnitude_eq_fields :
    b.toNat % 2 ^ 63 = (unpackExponent b).toNat * 2 ^ 52 + (unpackMantissa b).toNat := by
  rw [toNat_unpackExponent, toNat_unpackMantissa]
  omega

theorem unpackExponent_ne_iff :
    unpackExponent b ≠ -1#_ ↔ b.toNat % 2 ^ 63 < Format.double.infinity := by
  have hbits : 2 ^ Float.Model.Format.binary64.exponentBits = 2048 := rfl
  have hm := (unpackMantissa b).isLt
  have he := (unpackExponent b).isLt
  rw [ne_neg_one_iff, magnitude_eq_fields, infinity_double, hbits]
  rw [hbits] at he
  change _ < 2 ^ 52 at hm
  omega

theorem packComponents_of_fields {e : BitVec Float.Model.Format.binary64.exponentBits}
    {m : BitVec Float.Model.Format.binary64.mantissaBitsWithoutImplicit}
    (he : unpackExponent b = e) (hm : unpackMantissa b = m) :
    packComponents Float.Model.Format.binary64 (Sign.ofBitVec (unpackSign b)) e m = b := by
  rw [← he, ← hm, packComponents_unpack]

/-- The mantissa of a normal number has a leading one. -/
theorem toNat_one_append (m : BitVec 52) : (1#1 ++ m).toNat = 2 ^ 52 + m.toNat := by
  rw [toNat_append_eq_add]
  rfl

theorem log2_one_append (m : BitVec 52) : (1#1 ++ m).toNat.log2 = 52 := by
  have hm := m.isLt
  rw [toNat_one_append, Nat.log2_eq_iff (by omega)]
  omega

/-- A finite pattern is kept when it is read and written again. -/
theorem pack_unpack (h : unpackExponent b ≠ -1#_) :
    pack Float.Model.Format.binary64 (unpack _ b) = b := by
  have he := ne_neg_one_iff.1 h
  have hbits : 2 ^ Float.Model.Format.binary64.exponentBits = 2048 := rfl
  rw [hbits] at he
  have hbias : Float.Model.Format.binary64.exponentBias = 1023 := rfl
  have hmantissa : Float.Model.Format.binary64.mantissaBits = 53 := rfl
  have hm : (unpackMantissa b).toNat < 2 ^ 52 := (unpackMantissa b).isLt
  unfold unpack
  rw [if_neg h]
  split
  next hzero =>
    split
    next hm0 => exact packComponents_of_fields hzero hm0
    next hm0 =>
      have hlog : (unpackMantissa b).toNat.log2 < 52 := by
        refine (Nat.log2_lt fun h0 => hm0 (BitVec.eq_of_toNat_eq ?_)).2 hm
        rw [h0, BitVec.toNat_zero]
      rw [pack, hzero, hbits, hbias, hmantissa, if_neg (by simp), if_neg (by omega)]
      exact packComponents_of_fields hzero (BitVec.eq_of_toNat_eq (by
        rw [BitVec.toNat_ofNat, Nat.mod_eq_of_lt hm]))
  next hne =>
    have hlog := log2_one_append (unpackMantissa b)
    have hexponent : (((unpackExponent b).toNat : ℤ) - ((1023 : ℕ) + (52 : ℕ)) + (1023 : ℕ) +
        (52 : ℕ)).toNat = (unpackExponent b).toNat := by
      omega
    rw [pack, hbits, hbias, hmantissa, hexponent, if_neg (by omega), if_pos (by rw [hlog])]
    refine packComponents_of_fields (BitVec.eq_of_toNat_eq ?_) (BitVec.eq_of_toNat_eq ?_)
    · rw [BitVec.toNat_ofNat, Nat.mod_eq_of_lt (unpackExponent b).isLt]
    · rw [BitVec.toNat_ofNat, toNat_one_append, Nat.add_mod_left, Nat.mod_eq_of_lt hm]

end Fields

/-! ## Signs -/

/-- A magnitude with a sign. -/
def signed (negative : Bool) (q : ℚ) : ℚ := if negative then -q else q

section Signed

variable {negative other : Bool} {p q : ℚ}

theorem signed_zero : signed negative 0 = 0 := by
  cases negative
  · rfl
  · exact neg_zero

theorem signed_injective : Function.Injective (signed negative) := by
  cases negative
  · exact fun p q h => h
  · exact neg_injective

theorem abs_signed (hq : 0 ≤ q) : |signed negative q| = q := by
  cases negative
  · exact abs_of_nonneg hq
  · exact (abs_neg q).trans (abs_of_nonneg hq)

theorem abs_signed_sub_signed : |signed negative p - signed negative q| = |p - q| := by
  cases negative
  · rfl
  · show |-p - -q| = |p - q|
    rw [neg_sub_neg, abs_sub_comm]

/-- Numbers are at least as far apart as their magnitudes. -/
theorem abs_sub_le_abs_signed_sub (hp : 0 ≤ p) (hq : 0 ≤ q) :
    |p - q| ≤ |signed negative p - signed other q| := by
  have h := abs_abs_sub_abs_le (signed negative p) (signed other q)
  rwa [abs_signed hp, abs_signed hq] at h

/-- A magnitude whose two signs make a difference, but not for its distance from `q`. -/
theorem eq_zero_of_abs_signed_sub (hp : 0 ≤ p) (hq : 0 ≤ q)
    (hne : signed negative p ≠ signed other p)
    (heq : |signed negative p - signed other q| = |p - q|) : q = 0 := by
  have hsum : p + q = |p - q| := by
    cases negative <;> cases other
    · exact absurd rfl hne
    · rwa [signed, signed, if_neg Bool.false_ne_true, if_pos rfl, sub_neg_eq_add,
        abs_of_nonneg (add_nonneg hp hq)] at heq
    · rwa [signed, signed, if_neg Bool.false_ne_true, if_pos rfl, ← neg_add', abs_neg,
        abs_of_nonneg (add_nonneg hp hq)] at heq
    · exact absurd rfl hne
  have hp0 : p ≠ 0 := by
    rintro rfl
    exact hne (signed_zero.trans signed_zero.symm)
  rcases eq_or_eq_neg_of_abs_eq hsum.symm with h | h
  · linarith
  · exact absurd (by linarith) hp0

end Signed

/-! ## Magnitudes -/

section Magnitudes

/-- A normal mantissa is a normal mark of the width that its exponent gives. -/
theorem units_of_normal {e m : Nat} (he : e ≠ 0) (hm : m < 2 ^ 52) :
    Format.double.units (e * 2 ^ 52 + m) = (2 ^ 52 + m) * 2 ^ (e - 1) := by
  obtain ⟨k, rfl⟩ := Nat.exists_eq_succ_of_ne_zero he
  have hplace : Format.double.Place ((k + 1) * 2 ^ 52 + m) k (2 ^ 52 + m) := by
    refine ⟨?_, ?_, .inr ?_⟩ <;> simp only [Format.double] <;> omega
  exact hplace.units_eq

theorem units_of_subnormal {m : Nat} (hm : m < 2 ^ 52) : Format.double.units m = m := by
  have hplace : Format.double.Place m 0 m := by
    refine ⟨?_, ?_, .inl rfl⟩ <;> simp only [Format.double] <;> omega
  rw [hplace.units_eq, pow_zero, Nat.mul_one]

theorem magnitudeOf_nonneg (bits : Nat) : 0 ≤ magnitudeOf bits := by
  unfold magnitudeOf
  positivity

theorem magnitudeOf_zero : magnitudeOf 0 = 0 := by
  rw [magnitudeOf, units_of_subnormal (by decide), Nat.cast_zero, zero_div]

theorem magnitudeOf_injective : Function.Injective magnitudeOf := fun m m' h => by
  unfold magnitudeOf at h
  rw [div_left_inj' (by positivity), Nat.cast_inj] at h
  exact Format.double.units_strictMono.injective h

theorem div_two_pow_eq (q : ℚ) : q / 2 ^ 1074 = q * 2 ^ (-1074 : ℤ) := by
  rw [zpow_neg, ← div_eq_mul_inv]
  rfl

/-- Distances may be measured in multiples of the least positive magnitude. -/
theorem abs_units_sub (bits : Nat) (q : ℚ) :
    |(Format.double.units bits : ℚ) - q * 2 ^ 1074| = |magnitudeOf bits - q| * 2 ^ 1074 := by
  have hscale : (Format.double.units bits : ℚ) - q * 2 ^ 1074 =
      (magnitudeOf bits - q) * 2 ^ 1074 := by
    unfold magnitudeOf
    field_simp
  rw [hscale, abs_mul, abs_of_pos (show (0 : ℚ) < 2 ^ 1074 by positivity)]

end Magnitudes

/-! ## Numbers -/

section Numbers

variable {x : Float}

theorem isFinite_iff : x.isFinite ↔ magnitudeBits x < Format.double.infinity := by
  have hiff := @unpackExponent_ne_iff x.toBits.toBitVec
  refine ⟨fun h => hiff.1 fun hones => ?_, fun h => isFinite_unpack (hiff.2 h)⟩
  -- all ones stand for an infinity or for no number
  change (unpack Float.Model.Format.binary64 x.toBits.toBitVec).isFinite = true at h
  unfold unpack at h
  rw [if_pos hones] at h
  split at h <;> cases h

theorem toBits_ofBits {w : UInt64} (h : w.toNat % 2 ^ 63 < Format.double.infinity) :
    (Float.ofBits w).toBits = w :=
  UInt64.toBitVec_inj.1 (pack_unpack (unpackExponent_ne_iff.2 h))

theorem isNaN_eq_false (h : x.isFinite) : x.isNaN = false := by
  change x.toModel.unpack.isFinite = true at h
  show x.toModel.unpack.isNaN = false
  cases hx : x.toModel.unpack with
  | notANumber => rw [hx] at h; cases h
  | infinity _ => rfl
  | zero _ => rfl
  | finite _ _ _ _ => rfl

theorem toNat_toBits (x : Float) :
    x.toBits.toNat = (if signBit x then 2 ^ 63 else 0) + magnitudeBits x := by
  have hlt : x.toBits.toNat < 2 ^ 64 := x.toBits.toNat_lt
  unfold signBit magnitudeBits
  by_cases h : 2 ^ 63 ≤ x.toBits.toNat
  · rw [decide_eq_true h, if_pos rfl]
    omega
  · rw [decide_eq_false h, if_neg Bool.false_ne_true]
    omega

theorem magnitudeBits_mod_two (x : Float) : magnitudeBits x % 2 = x.toBits.toNat % 2 := by
  unfold magnitudeBits
  omega

/-- A number is known by its sign and the pattern of its magnitude. -/
theorem eq_of_magnitudeBits {y : Float} (hsign : signBit x = signBit y)
    (hmagnitude : magnitudeBits x = magnitudeBits y) : x = y := by
  have hbits : x.toBits = y.toBits := UInt64.toNat_inj.1 (by
    rw [toNat_toBits x, toNat_toBits y, hsign, hmagnitude])
  obtain ⟨⟨_, _⟩⟩ := x
  obtain ⟨⟨_, _⟩⟩ := y
  cases hbits
  rfl

section Decoder

variable {b : BitVec Float.Model.Format.binary64.numBits}

theorem apply_unpackSign (m : Nat) (e : ℤ) :
    (((Sign.ofBitVec (unpackSign b)).apply m : ℤ) : ℚ) * 2 ^ e =
      signed (decide (2 ^ 63 ≤ b.toNat)) (m * 2 ^ e) := by
  rw [ofBitVec_unpackSign]
  by_cases h : 2 ^ 63 ≤ b.toNat
  · rw [if_pos h, decide_eq_true h]
    simp [Sign.apply, signed]
  · rw [if_neg h, decide_eq_false h]
    simp [Sign.apply, signed]

/-- The decoder reads the magnitude off a finite pattern. -/
theorem rational_unpack (h : unpackExponent b ≠ -1#_) :
    unpackedRational (unpack _ b) =
      signed (decide (2 ^ 63 ≤ b.toNat)) (magnitudeOf (b.toNat % 2 ^ 63)) := by
  have hm : (unpackMantissa b).toNat < 2 ^ 52 := (unpackMantissa b).isLt
  have hbias : Float.Model.Format.binary64.exponentBias = 1023 := rfl
  rw [magnitude_eq_fields, magnitudeOf]
  unfold unpack
  rw [if_neg h]
  split
  next hzero =>
    rw [hzero, BitVec.toNat_ofNat, Nat.zero_mod, Nat.zero_mul, Nat.zero_add, units_of_subnormal hm]
    split
    next hm0 =>
      rw [hm0, BitVec.toNat_ofNat, Nat.zero_mod]
      simp [unpackedRational, signed]
    next hm0 =>
      rw [unpackedRational, apply_unpackSign, hbias, div_two_pow_eq]
      rfl
  next hne =>
    have he : (unpackExponent b).toNat ≠ 0 := fun h0 =>
      hne (BitVec.eq_of_toNat_eq (h0.trans (BitVec.toNat_ofNat 0 _).symm))
    obtain ⟨k, hk⟩ := Nat.exists_eq_succ_of_ne_zero he
    have hexponent : ((k.succ : ℕ) : ℤ) - ((1023 : ℕ) + (52 : ℕ)) = k + -1074 := by omega
    rw [unpackedRational, apply_unpackSign, hbias, units_of_normal he hm, div_two_pow_eq, hk,
      hexponent, zpow_add₀ two_ne_zero, toNat_one_append, Nat.succ_sub_one, Nat.cast_mul,
      Nat.cast_pow, zpow_natCast, mul_assoc]
    rfl

end Decoder

/-- **A finite number is its magnitude with its sign.** -/
theorem rational_eq (h : x.isFinite) :
    rational x = signed (signBit x) (magnitudeOf (magnitudeBits x)) :=
  rational_unpack (unpackExponent_ne_iff.2 (isFinite_iff.1 h))

end Numbers

/-! ## Numbers made of a sign and a magnitude -/

/-- The number with the given sign whose magnitude has the given bit pattern. -/
def ofMagnitude (negative : Bool) (bits : Nat) : Float :=
  Float.ofBits (UInt64.ofNat ((if negative then Nat.pow 2 63 else 0) + bits))

section Made

variable {negative : Bool} {bits : Nat} (h : bits < Format.double.infinity)

include h

theorem toNat_toBits_ofMagnitude :
    (ofMagnitude negative bits).toBits.toNat = (if negative then 2 ^ 63 else 0) + bits := by
  have hinf := infinity_double
  have hword : (UInt64.ofNat ((if negative then Nat.pow 2 63 else 0) + bits)).toNat =
      (if negative then 2 ^ 63 else 0) + bits := by
    rw [UInt64.toNat_ofNat', Nat.pow_eq]
    refine Nat.mod_eq_of_lt ?_
    split <;> omega
  rw [ofMagnitude, toBits_ofBits, hword]
  rw [hword]
  split <;> omega

theorem signBit_ofMagnitude : signBit (ofMagnitude negative bits) = negative := by
  have hinf := infinity_double
  rw [signBit, toNat_toBits_ofMagnitude h]
  cases negative
  · exact decide_eq_false (by simp only [Bool.false_eq_true, if_false]; omega)
  · exact decide_eq_true (by simp only [if_true]; omega)

theorem magnitudeBits_ofMagnitude : magnitudeBits (ofMagnitude negative bits) = bits := by
  have hinf := infinity_double
  rw [magnitudeBits, toNat_toBits_ofMagnitude h]
  split <;> omega

theorem isFinite_ofMagnitude : (ofMagnitude negative bits).isFinite := by
  rw [isFinite_iff, magnitudeBits_ofMagnitude h]
  exact h

theorem rational_ofMagnitude :
    rational (ofMagnitude negative bits) = signed negative (magnitudeOf bits) := by
  rw [rational_eq (isFinite_ofMagnitude h), signBit_ofMagnitude h, magnitudeBits_ofMagnitude h]

end Made

/-! ## Integers -/

section Integers

variable {x : Float} {n : Nat}

theorem units_eq_of_magnitudeOf_eq {bits : Nat} (h : magnitudeOf bits = n) :
    Format.double.units bits = n * 2 ^ 1074 := by
  rw [magnitudeOf, div_eq_iff (by positivity)] at h
  refine Nat.cast_injective (R := ℚ) ?_
  rw [h, Nat.cast_mul, Nat.cast_pow, Nat.cast_ofNat]

theorem magnitudeOf_eq_of_rational_eq (hx : x.isFinite) (h : rational x = n) :
    magnitudeOf (magnitudeBits x) = n := by
  rw [← Nat.abs_cast n, ← h, rational_eq hx, abs_signed (magnitudeOf_nonneg _)]

/-- With a minus sign there is no integer but zero. -/
theorem eq_zero_of_signBit (hx : x.isFinite) (h : rational x = n) (hsign : signBit x = true) :
    n = 0 := by
  have hmagnitude := magnitudeOf_eq_of_rational_eq hx h
  rw [rational_eq hx, hsign, signed, if_pos rfl, hmagnitude] at h
  have hzero : (n : ℚ) = 0 := by linarith
  exact Nat.cast_eq_zero.1 hzero

/-- An integer is its own whole part. -/
theorem toNat_wholeWord (hx : x.isFinite) (h : rational x = n) (hn : n < 2 ^ 64) :
    (wholeWord x).toNat = n := by
  have hbits := toNat_toBits x
  rw [wholeWord, isNaN_eq_false hx, Nat.pow_eq]
  cases hsign : signBit x with
  | true =>
    rw [hsign, if_pos rfl] at hbits
    rw [if_pos (.inr (by omega)), eq_zero_of_signBit hx h hsign]
    rfl
  | false =>
    have hlt : magnitudeBits x < 2 ^ 63 := Nat.mod_lt _ (by decide)
    rw [hsign, if_neg Bool.false_ne_true, Nat.zero_add] at hbits
    have hbelow : ¬ (false = true ∨ 2 ^ 63 ≤ x.toBits.toNat) := by
      rintro (hnan | hge)
      · cases hnan
      · omega
    have hwhole : Format.double.units x.toBits.toNat / Nat.pow 2 1074 = n := by
      rw [hbits, units_eq_of_magnitudeOf_eq (magnitudeOf_eq_of_rational_eq hx h)]
      generalize 1074 = k
      rw [Nat.pow_eq, Nat.mul_div_cancel _ (Nat.two_pow_pos k)]
    rw [if_neg hbelow, hwhole, UInt64.toNat_ofNat', Nat.pow_eq]
    omega

/-- An integer of at most 53 bits is brought to 53 bits by doubling. -/
theorem exists_mul_two_pow (hpos : 0 < n) (hn : n ≤ 2 ^ 53) :
    ∃ e ≤ 52, 2 ^ 52 ≤ n * 2 ^ e ∧ n * 2 ^ e ≤ 2 ^ 53 := by
  rcases Nat.eq_or_lt_of_le hn with rfl | hlt
  · exact ⟨0, by decide, by decide, by decide⟩
  · have hlog : n.log2 < 53 := (Nat.log2_lt hpos.ne').2 hlt
    have hsplit : n.log2 + (52 - n.log2) = 52 := by omega
    refine ⟨52 - n.log2, by omega, ?_, ?_⟩
    · calc 2 ^ 52 = 2 ^ n.log2 * 2 ^ (52 - n.log2) := by rw [← pow_add, hsplit]
        _ ≤ n * 2 ^ (52 - n.log2) := Nat.mul_le_mul_right _ (Nat.log2_self_le hpos.ne')
    · calc n * 2 ^ (52 - n.log2) ≤ 2 ^ (n.log2 + 1) * 2 ^ (52 - n.log2) :=
            Nat.mul_le_mul_right _ Nat.lt_log2_self.le
        _ = 2 ^ 53 := by rw [← pow_add, Nat.add_right_comm, hsplit]

theorem exists_units_eq (hn : n ≤ 2 ^ 53) :
    ∃ bits < Format.double.infinity, Format.double.units bits = n * 2 ^ 1074 := by
  rcases Nat.eq_zero_or_pos n with rfl | hpos
  · exact ⟨0, by decide, by rw [units_of_subnormal (by decide), Nat.zero_mul]⟩
  · obtain ⟨e, he, hlow, hhigh⟩ := exists_mul_two_pow hpos hn
    have hplace : Format.double.Place ((1074 - e) * 2 ^ 52 + n * 2 ^ e) (1074 - e) (n * 2 ^ e) :=
      ⟨rfl, hhigh, .inr hlow⟩
    refine ⟨_, ?_, hplace.units_eq.trans ?_⟩
    · rw [infinity_double]
      omega
    · rw [Nat.mul_assoc, ← pow_add, show e + (1074 - e) = 1074 by omega]

/-- The integers up to `2 ^ 53` are numbers. -/
theorem exists_rational_eq (hn : n ≤ 2 ^ 53) :
    ∃ x : Float, x.isFinite ∧ rational x = n := by
  obtain ⟨bits, hbits, hunits⟩ := exists_units_eq hn
  refine ⟨ofMagnitude false bits, isFinite_ofMagnitude hbits, ?_⟩
  rw [rational_ofMagnitude hbits, signed, if_neg Bool.false_ne_true, magnitudeOf, hunits,
    div_eq_iff (by positivity), Nat.cast_mul, Nat.cast_pow, Nat.cast_ofNat]

end Integers

/-! ## The nearest number -/

/-- A finite number of the given sign to which no finite number is preferred as a value of `d`: none
is nearer, and if another one is as near then the pattern is even. -/
structure RoundsTo (x : Float) (negative : Bool) (d : ℚ) : Prop where
  finite : x.isFinite
  sign : signBit x = negative
  nearest : ∀ y : Float, y.isFinite → |rational x - d| ≤ |rational y - d|
  even : ∀ y : Float, y.isFinite → rational y ≠ rational x → |rational x - d| = |rational y - d| →
    x.toBits.toNat % 2 = 0

section Nearest

variable {x : Float} {q : ℚ}

theorem abs_magnitudeOf_sub_le (h : Format.double.IsNearest (q * 2 ^ 1074) (magnitudeBits x))
    (bits : Nat) : |magnitudeOf (magnitudeBits x) - q| ≤ |magnitudeOf bits - q| := by
  have hle := (h bits).1
  rw [abs_units_sub, abs_units_sub] at hle
  exact le_of_mul_le_mul_right hle (by positivity)

theorem even_of_abs_magnitudeOf_sub_eq
    (h : Format.double.IsNearest (q * 2 ^ 1074) (magnitudeBits x)) {bits : Nat}
    (hne : bits ≠ magnitudeBits x)
    (heq : |magnitudeOf (magnitudeBits x) - q| = |magnitudeOf bits - q|) :
    magnitudeBits x % 2 = 0 :=
  (h bits).2 hne (by rw [abs_units_sub, abs_units_sub, heq])

theorem abs_rational_sub (hx : x.isFinite) :
    |rational x - signed (signBit x) q| = |magnitudeOf (magnitudeBits x) - q| := by
  rw [rational_eq hx, abs_signed_sub_signed]

theorem abs_magnitudeOf_sub_le_abs_rational_sub (hx : x.isFinite) (hq : 0 ≤ q) (negative : Bool) :
    |magnitudeOf (magnitudeBits x) - q| ≤ |rational x - signed negative q| := by
  rw [rational_eq hx]
  exact abs_sub_le_abs_signed_sub (magnitudeOf_nonneg _) hq

variable (hfinite : x.isFinite) (h : Format.double.IsNearest (q * 2 ^ 1074) (magnitudeBits x))

include hfinite h

/-- A finite number whose magnitude is nearest is the nearest of the numbers of either sign. -/
theorem roundsTo_of_isNearest (hq : 0 ≤ q) : RoundsTo x (signBit x) (signed (signBit x) q) := by
  refine ⟨hfinite, rfl, fun y hy => ?_, fun y hy hne heq => ?_⟩
  · rw [abs_rational_sub hfinite]
    exact (abs_magnitudeOf_sub_le h _).trans (abs_magnitudeOf_sub_le_abs_rational_sub hy hq _)
  · rw [abs_rational_sub hfinite] at heq
    rw [← magnitudeBits_mod_two]
    by_cases hbits : magnitudeBits y = magnitudeBits x
    · -- the two differ by their sign, so `q` is zero and so is its nearest magnitude
      rw [rational_eq hy, hbits] at heq
      rw [rational_eq hy, rational_eq hfinite, hbits] at hne
      have hx := magnitudeOf_nonneg (magnitudeBits x)
      obtain rfl := eq_zero_of_abs_signed_sub hx hq hne heq.symm
      have hzero := abs_magnitudeOf_sub_le h 0
      rw [magnitudeOf_zero, sub_zero, sub_zero, abs_zero, abs_nonpos_iff] at hzero
      rw [hzero] at hne
      exact absurd (signed_zero.trans signed_zero.symm) hne
    · refine even_of_abs_magnitudeOf_sub_eq h hbits (le_antisymm (abs_magnitudeOf_sub_le h _) ?_)
      exact (abs_magnitudeOf_sub_le_abs_rational_sub hy hq _).trans_eq heq.symm

/-- There is one nearest number. -/
theorem RoundsTo.eq_of_isNearest {y : Float} (hy : RoundsTo y (signBit x) (signed (signBit x) q)) :
    y = x := by
  have hdist := @abs_rational_sub y q hy.finite
  rw [hy.sign] at hdist
  have hle := hy.nearest x hfinite
  have hnearest := hle
  rw [hdist, abs_rational_sub hfinite] at hnearest
  refine eq_of_magnitudeBits hy.sign (h.eq_of_le ?_ fun hne => ?_)
  · rw [abs_units_sub, abs_units_sub]
    exact mul_le_mul_of_nonneg_right hnearest (by positivity)
  · rw [magnitudeBits_mod_two]
    refine hy.even x hfinite (fun hrational => hne ?_) (le_antisymm hle ?_)
    · rw [rational_eq hfinite, rational_eq hy.finite, hy.sign] at hrational
      exact (magnitudeOf_injective (signed_injective hrational)).symm
    · rw [hdist, abs_rational_sub hfinite]
      exact abs_magnitudeOf_sub_le h _

end Nearest

end GlyphEffects.Number
