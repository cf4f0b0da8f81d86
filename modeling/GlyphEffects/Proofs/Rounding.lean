import Mathlib
import GlyphEffects.Number.Binary

/-! # The nearest magnitude

The magnitudes of a binary format stand on a ruler whose marks lie twice as far apart from each
power of two on. A number is rounded on the marks that are drawn where it lies, and no mark
elsewhere is nearer to it. Where the format ends the marks are thought to go on, so a number is
beyond the finite range exactly when its nearest mark is.

* `abs_divNearest_sub_le` and `even_divNearest`: how far a quotient is moved, and where a half goes.
* `Format.Place`: where a bit pattern stands on the ruler; so `Format.units_strictMono`, patterns
  are in the order of their magnitudes.
* `Format.IsNearest`: a pattern is nearest to a number, and even if another one is as near. There
  is one such pattern (`Format.IsNearest.eq_of_le`), and where it lies can be told from the midpoint
  of two patterns (`Format.IsNearest.le_iff`).
* `Format.isNearest_mark`: **rounding finds the nearest magnitude.**
-/

namespace GlyphEffects.Number

/-! ## Quotients -/

section Quotient

theorem div_le_divNearest (n d : Nat) : n / d ≤ divNearest n d := by
  unfold divNearest
  split <;> omega

theorem divNearest_le_div_add_one (n d : Nat) : divNearest n d ≤ n / d + 1 := by
  unfold divNearest
  split <;> omega

variable (n : Nat) {d : Nat} (hd : 0 < d)

include hd

/-- A quotient that lies half-way between two integers is rounded to the even one. -/
theorem divNearest_mod_two_eq_zero
    (h : 2 * n = 2 * (divNearest n d * d) + d ∨ 2 * (divNearest n d * d) = 2 * n + d) :
    divNearest n d % 2 = 0 := by
  have hn : n / d * d + n % d = n := Nat.div_add_mod' n d
  have hr : n % d < d := Nat.mod_lt n hd
  have hs : (n / d + 1) * d = n / d * d + d := Nat.succ_mul _ _
  revert h
  unfold divNearest
  split <;> omega

theorem abs_divNearest_sub_le : |(divNearest n d : ℚ) - n / d| ≤ 1 / 2 := by
  have hd' : (0 : ℚ) < d := by exact_mod_cast hd
  obtain ⟨hlow, hhigh⟩ := divNearest_error n hd
  have hlow : (2 * n : ℚ) ≤ 2 * (divNearest n d * d) + d := by exact_mod_cast hlow
  have hhigh : (2 * (divNearest n d * d) : ℚ) ≤ 2 * n + d := by exact_mod_cast hhigh
  have hle : (n : ℚ) / d ≤ divNearest n d + 1 / 2 := (div_le_iff₀ hd').2 (by linarith)
  have hge : (divNearest n d - 1 / 2 : ℚ) ≤ n / d := (le_div_iff₀ hd').2 (by linarith)
  exact abs_le.2 ⟨by linarith, by linarith⟩

theorem even_divNearest (h : |(divNearest n d : ℚ) - n / d| = 1 / 2) :
    divNearest n d % 2 = 0 := by
  have hd' : (d : ℚ) ≠ 0 := by exact_mod_cast hd.ne'
  refine divNearest_mod_two_eq_zero n hd ?_
  rcases eq_or_eq_neg_of_abs_eq h with h | h
  · have hn : (n / d : ℚ) = divNearest n d - 1 / 2 := by linarith
    rw [div_eq_iff hd'] at hn
    have : (2 * (divNearest n d * d) : ℚ) = 2 * n + d := by linarith
    exact .inr (by exact_mod_cast this)
  · have hn : (n / d : ℚ) = divNearest n d + 1 / 2 := by linarith
    rw [div_eq_iff hd'] at hn
    have : (2 * n : ℚ) = 2 * (divNearest n d * d) + d := by linarith
    exact .inl (by exact_mod_cast this)

/-- No integer is nearer to a quotient than the rounded one, and if another one is as near then the
rounded one is even. -/
theorem divNearest_nearest (j : Nat) :
    |(divNearest n d : ℚ) - n / d| ≤ |(j : ℚ) - n / d| ∧
      (j ≠ divNearest n d → |(divNearest n d : ℚ) - n / d| = |(j : ℚ) - n / d| →
        divNearest n d % 2 = 0) := by
  have hhalf := abs_divNearest_sub_le n hd
  by_cases hj : j = divNearest n d
  · exact ⟨by rw [hj], fun h => absurd hj h⟩
  · -- two integers lie at least one apart, so one of them is at least a half away
    have hone : (1 : ℚ) ≤ |(j : ℚ) - divNearest n d| := by
      have : (1 : ℤ) ≤ |(j : ℤ) - divNearest n d| :=
        Int.one_le_abs (sub_ne_zero.2 (by exact_mod_cast hj))
      exact_mod_cast this
    have htri : |(j : ℚ) - divNearest n d| ≤
        |(j : ℚ) - n / d| + |(divNearest n d : ℚ) - n / d| := by
      rw [abs_sub_comm (divNearest n d : ℚ)]
      exact abs_sub_le _ _ _
    exact ⟨by linarith, fun _ heq => even_divNearest n hd (by linarith)⟩

end Quotient

namespace Format

variable {f : Format}

/-! ## The ruler -/

/-- A bit pattern stands at the mark `mark` of those that are `2 ^ k` apart. The marks of a width
reach up to a power of two, and from the second width on they begin at the one below. -/
structure Place (f : Format) (bits k mark : Nat) : Prop where
  eq : bits = k * 2 ^ f.fraction + mark
  le : mark ≤ 2 * 2 ^ f.fraction
  normal : k = 0 ∨ 2 ^ f.fraction ≤ mark

theorem Place.units_eq {bits k mark : Nat} (h : f.Place bits k mark) :
    f.units bits = mark * 2 ^ k := by
  obtain ⟨rfl, hle, hnormal⟩ := h
  have hpos : 0 < 2 ^ f.fraction := Nat.two_pow_pos _
  simp only [units, Nat.pow_eq]
  generalize 2 ^ f.fraction = w at *
  rcases Nat.lt_or_ge mark w with hsmall | hnormal
  · obtain rfl : k = 0 := by omega
    simp [hsmall]
  · -- the last mark of a width is the first one of the next width but one
    rcases Nat.eq_or_lt_of_le hle with rfl | hlt
    · have hbits : k * w + 2 * w = (k + 2) * w := by ring
      rw [hbits, if_neg (by nlinarith), Nat.mul_mod_left, Nat.mul_div_cancel _ hpos]
      simp [pow_succ]
      ring
    · obtain ⟨r, rfl⟩ := Nat.exists_eq_add_of_le hnormal
      have hbits : k * w + (w + r) = r + w * (k + 1) := by ring
      have hr : r < w := by omega
      rw [hbits, if_neg (by nlinarith), Nat.add_mul_mod_self_left, Nat.add_mul_div_left _ _ hpos,
        Nat.mod_eq_of_lt hr, Nat.div_eq_of_lt hr, Nat.zero_add, Nat.add_sub_cancel, Nat.add_comm]

/-- Every pattern has its place, before the last mark of a width. -/
theorem exists_place (f : Format) (bits : Nat) :
    ∃ k mark, f.Place bits k mark ∧ mark < 2 * 2 ^ f.fraction := by
  have hpos : 0 < 2 ^ f.fraction := Nat.two_pow_pos _
  rcases Nat.lt_or_ge bits (2 ^ f.fraction) with hsmall | hnormal
  · exact ⟨0, bits, ⟨by simp, by omega, .inl rfl⟩, by omega⟩
  · have hmod : bits % 2 ^ f.fraction < 2 ^ f.fraction := Nat.mod_lt _ hpos
    have hdiv : 1 ≤ bits / 2 ^ f.fraction := (Nat.one_le_div_iff hpos).2 hnormal
    have heq := Nat.div_add_mod' bits (2 ^ f.fraction)
    obtain ⟨k, hk⟩ := Nat.exists_eq_add_of_le' hdiv
    rw [hk, Nat.succ_mul] at heq
    exact ⟨k, 2 ^ f.fraction + bits % 2 ^ f.fraction, ⟨by omega, by omega, .inr (by omega)⟩,
      by omega⟩

theorem units_lt_succ (f : Format) (bits : Nat) : f.units bits < f.units (bits + 1) := by
  obtain ⟨k, mark, hplace, hlt⟩ := f.exists_place bits
  have hnext : f.Place (bits + 1) k (mark + 1) :=
    ⟨by rw [hplace.eq]; ring, hlt, hplace.normal.imp_right fun h => by omega⟩
  rw [hplace.units_eq, hnext.units_eq]
  exact Nat.mul_lt_mul_of_pos_right (Nat.lt_succ_self _) (Nat.two_pow_pos _)

theorem units_strictMono (f : Format) : StrictMono f.units :=
  strictMono_nat_of_lt_succ f.units_lt_succ

/-- A magnitude is a multiple of the width `2 ^ k`, or it lies before the normal marks that are that
far apart. -/
theorem dvd_units_or_lt (f : Format) (bits k : Nat) :
    2 ^ k ∣ f.units bits ∨ k ≠ 0 ∧ f.units bits < 2 ^ f.fraction * 2 ^ k := by
  obtain ⟨k', mark, hplace, hlt⟩ := f.exists_place bits
  rw [hplace.units_eq]
  rcases Nat.lt_or_ge k' k with hk | hk
  · refine .inr ⟨by omega, ?_⟩
    calc mark * 2 ^ k' < 2 * 2 ^ f.fraction * 2 ^ k' :=
          Nat.mul_lt_mul_of_pos_right hlt (Nat.two_pow_pos _)
      _ = 2 ^ f.fraction * 2 ^ (k' + 1) := by ring
      _ ≤ 2 ^ f.fraction * 2 ^ k := Nat.mul_le_mul_left _ (Nat.pow_le_pow_right (by decide) hk)
  · exact .inl (Dvd.dvd.mul_left (pow_dvd_pow 2 hk) mark)

/-! ## Nearest patterns -/

/-- The magnitude of a pattern is nearest to `t`, and the pattern is even if that of another one is
as near. -/
def IsNearest (f : Format) (t : ℚ) (bits : Nat) : Prop :=
  ∀ other, |(f.units bits : ℚ) - t| ≤ |(f.units other : ℚ) - t| ∧
    (other ≠ bits → |(f.units bits : ℚ) - t| = |(f.units other : ℚ) - t| → bits % 2 = 0)

section IsNearest

variable {t : ℚ} {bits : Nat}

/-- Of two equally near patterns, the one between is nearer. -/
theorem IsNearest.not_lt_lt (h : f.IsNearest t bits) {low mid high : Nat} (hlow : low < mid)
    (hhigh : mid < high) (hl : |(f.units low : ℚ) - t| ≤ |(f.units bits : ℚ) - t|)
    (hh : |(f.units high : ℚ) - t| ≤ |(f.units bits : ℚ) - t|) : False := by
  have hlow : (f.units low : ℚ) < f.units mid := by exact_mod_cast f.units_strictMono hlow
  have hhigh : (f.units mid : ℚ) < f.units high := by exact_mod_cast f.units_strictMono hhigh
  have hmid := (h mid).1
  have hlt : |(f.units mid : ℚ) - t| < |(f.units bits : ℚ) - t| := by
    rw [abs_le] at hl hh
    exact abs_lt.2 ⟨by linarith, by linarith⟩
  exact absurd hmid (not_le.2 hlt)

/-- There is one nearest pattern. -/
theorem IsNearest.eq_of_le (h : f.IsNearest t bits) {other : Nat}
    (hle : |(f.units other : ℚ) - t| ≤ |(f.units bits : ℚ) - t|)
    (heven : other ≠ bits → other % 2 = 0) : other = bits := by
  by_contra hne
  have heq := le_antisymm (h other).1 hle
  have hbits := (h other).2 hne heq
  have hother := heven hne
  -- both are even, so a pattern stands between them
  rcases Nat.lt_or_gt_of_ne hne with hlt | hlt
  · exact h.not_lt_lt (Nat.lt_succ_self other) (by omega) hle le_rfl
  · exact h.not_lt_lt (Nat.lt_succ_self bits) (by omega) le_rfl hle

/-- Where the nearest pattern lies is told by the midpoint between an odd pattern and the next. -/
theorem IsNearest.le_iff (h : f.IsNearest t bits) {m : Nat} (hodd : m % 2 = 1) :
    bits ≤ m ↔ 2 * t < f.units m + f.units (m + 1) := by
  have hstep : (f.units m : ℚ) < f.units (m + 1) := by exact_mod_cast f.units_lt_succ m
  constructor
  · intro hle
    by_contra hbeyond
    rw [not_lt] at hbeyond
    have hmono : (f.units bits : ℚ) ≤ f.units m := by exact_mod_cast f.units_strictMono.monotone hle
    have hbits : |(f.units bits : ℚ) - t| = t - f.units bits := by
      rw [abs_sub_comm, abs_of_nonneg (by linarith)]
    have hnext : |(f.units (m + 1) : ℚ) - t| ≤ t - f.units m :=
      abs_le.2 ⟨by linarith, by linarith⟩
    obtain ⟨hnear, htie⟩ := h (m + 1)
    -- the next pattern is as near, so the nearest one is even and hence not the odd one
    have heven := htie (by omega) (le_antisymm hnear (by linarith))
    have hlt : bits < m := by omega
    have hlt : (f.units bits : ℚ) < f.units m := by exact_mod_cast f.units_strictMono hlt
    linarith
  · intro hbefore
    by_contra hgt
    rw [not_le] at hgt
    have hmono : (f.units (m + 1) : ℚ) ≤ f.units bits := by
      exact_mod_cast f.units_strictMono.monotone hgt
    have hbits : |(f.units bits : ℚ) - t| = f.units bits - t := abs_of_nonneg (by linarith)
    have hlt : |(f.units m : ℚ) - t| < f.units bits - t :=
      abs_lt.2 ⟨by linarith, by linarith⟩
    have hnear := (h m).1
    linarith

end IsNearest

/-! ## Rounding -/

/-- The pattern to which `n / d` multiples of the least positive magnitude are rounded, as if the
marks went on without end. -/
def mark (f : Format) (n d : Nat) : Nat :=
  f.shift (n / d) * 2 ^ f.fraction + divNearest n (d * 2 ^ f.shift (n / d))

theorem nearest_eq_min (f : Format) (n d : Nat) :
    f.nearest n d = min f.infinity (f.mark (n * 2 ^ f.scale) d) := rfl

variable (f) (n : Nat) {d : Nat}

/-- Only a number of more bits than the fraction has is shifted. -/
theorem pow_le_div_of_shift_ne_zero {whole : Nat} (h : f.shift whole ≠ 0) :
    2 ^ f.fraction ≤ whole / 2 ^ f.shift whole := by
  have hwhole : whole ≠ 0 := by
    rintro rfl
    simp [shift] at h
  rw [Nat.le_div_iff_mul_le (Nat.two_pow_pos _), ← pow_add]
  refine le_trans (Nat.pow_le_pow_right (by decide) ?_) (Nat.log2_self_le hwhole)
  unfold shift at h ⊢
  omega

theorem div_shift_lt (whole : Nat) : whole / 2 ^ f.shift whole < 2 * 2 ^ f.fraction := by
  rw [Nat.div_lt_iff_lt_mul (Nat.two_pow_pos _), mul_assoc, ← pow_add, ← pow_succ']
  refine lt_of_lt_of_le Nat.lt_log2_self (Nat.pow_le_pow_right (by decide) ?_)
  unfold shift
  omega

theorem place_mark :
    f.Place (f.mark n d) (f.shift (n / d)) (divNearest n (d * 2 ^ f.shift (n / d))) := by
  have hlow := div_le_divNearest n (d * 2 ^ f.shift (n / d))
  have hhigh := divNearest_le_div_add_one n (d * 2 ^ f.shift (n / d))
  rw [← Nat.div_div_eq_div_mul] at hlow hhigh
  have hlt := f.div_shift_lt (n / d)
  refine ⟨rfl, by omega, ?_⟩
  by_cases hk : f.shift (n / d) = 0
  · exact .inl hk
  · exact .inr ((f.pow_le_div_of_shift_ne_zero hk).trans hlow)

/-- Distances may be measured in marks of any width. -/
theorem abs_mul_pow_sub (j k : Nat) (hd : 0 < d) :
    |((j * 2 ^ k : Nat) : ℚ) - n / d| = |(j : ℚ) - n / (d * 2 ^ k : Nat)| * 2 ^ k := by
  have hd' : (d : ℚ) ≠ 0 := by exact_mod_cast hd.ne'
  have hscale : ((j * 2 ^ k : Nat) : ℚ) - n / d = (j - n / (d * 2 ^ k : Nat)) * 2 ^ k := by
    push_cast
    field_simp
  rw [hscale, abs_mul, abs_of_pos (show (0 : ℚ) < 2 ^ k by positivity)]

/-- What lies before a mark that `n / d` has reached is farther from it than the mark to which it is
rounded. -/
theorem abs_divNearest_sub_lt {u j k : Nat} (hd : 0 < d) (hbefore : u < j * 2 ^ k)
    (hreached : j * 2 ^ k ≤ n / d) :
    |(divNearest n (d * 2 ^ k) : ℚ) - n / (d * 2 ^ k : Nat)| * 2 ^ k < |(u : ℚ) - n / d| := by
  have hdk : 0 < d * 2 ^ k := Nat.mul_pos hd (Nat.two_pow_pos _)
  have hbefore : (u : ℚ) < (j * 2 ^ k : Nat) := by exact_mod_cast hbefore
  have hreached : ((j * 2 ^ k : Nat) : ℚ) ≤ n / d :=
    le_trans (by exact_mod_cast hreached) Nat.cast_div_le
  calc |(divNearest n (d * 2 ^ k) : ℚ) - n / (d * 2 ^ k : Nat)| * 2 ^ k
      ≤ |(j : ℚ) - n / (d * 2 ^ k : Nat)| * 2 ^ k :=
        mul_le_mul_of_nonneg_right (divNearest_nearest n hdk j).1 (by positivity)
    _ = n / d - (j * 2 ^ k : Nat) := by
        rw [← abs_mul_pow_sub n _ k hd, abs_sub_comm, abs_of_nonneg (sub_nonneg.2 hreached)]
    _ < n / d - u := sub_lt_sub_left hbefore _
    _ ≤ |(u : ℚ) - n / d| := by
        rw [abs_sub_comm]
        exact le_abs_self _

/-- **Rounding finds the nearest magnitude.** -/
theorem isNearest_mark (hd : 0 < d) (hfraction : 0 < f.fraction) :
    f.IsNearest (n / d) (f.mark n d) := by
  have hplace := f.place_mark n (d := d)
  have hshifted := @pow_le_div_of_shift_ne_zero f (n / d)
  generalize f.shift (n / d) = k at *
  have hdk : 0 < d * 2 ^ k := Nat.mul_pos hd (Nat.two_pow_pos _)
  have hpow : (0 : ℚ) < 2 ^ k := by positivity
  intro other
  rw [hplace.units_eq, abs_mul_pow_sub n _ k hd]
  rcases f.dvd_units_or_lt other k with ⟨j, hj⟩ | ⟨hk, hlt⟩
  · -- the other one is at a mark of the same width
    rw [Nat.mul_comm] at hj
    obtain ⟨hnear, htie⟩ := divNearest_nearest n hdk j
    rw [hj, abs_mul_pow_sub n _ k hd, mul_le_mul_iff_left₀ hpow, mul_left_inj' hpow.ne']
    refine ⟨hnear, fun hne heq => ?_⟩
    have heven := htie (fun h => hne (f.units_strictMono.injective
      (by rw [hj, hplace.units_eq, h]))) heq
    rw [hplace.eq, Nat.add_mod, Nat.mul_mod, Nat.pow_mod, heven]
    simp [hfraction.ne']
  · -- the other one lies before the first normal mark, and the number does not
    have hreached : 2 ^ f.fraction * 2 ^ k ≤ n / d :=
      (Nat.le_div_iff_mul_le (Nat.two_pow_pos _)).1 (hshifted hk)
    have hfarther := abs_divNearest_sub_lt n hd hlt hreached
    exact ⟨hfarther.le, fun _ heq => absurd heq hfarther.ne⟩

end Format

end GlyphEffects.Number
