/-! # Sets of code points

A property of characters is a list of closed ranges of code points.

* `CodePoints.has` is membership of a character.
* `CodePoints.has_iff` states it as membership in one of the ranges, and `CodePoints.has_eq_false`
  says that what is below all ranges is in none.
-/

namespace GlyphEffects.Text

/-- A set of code points, as closed ranges in increasing order. -/
abbrev CodePoints := List (Nat × Nat)

/-- Whether the code point of a character lies in one of the ranges. -/
def CodePoints.has (s : CodePoints) (c : Char) : Bool :=
  s.any fun r => r.1 ≤ c.toNat && c.toNat ≤ r.2

theorem CodePoints.has_iff {s : CodePoints} {c : Char} :
    s.has c ↔ ∃ r ∈ s, r.1 ≤ c.toNat ∧ c.toNat ≤ r.2 := by
  simp [CodePoints.has]

theorem CodePoints.has_eq_false {s : CodePoints} {c : Char} {n : Nat}
    (hs : s.all fun r => n ≤ r.1) (hc : c.toNat < n) : s.has c = false := by
  rw [← Bool.not_eq_true, has_iff]
  rintro ⟨r, hr, hlo, -⟩
  have hle : n ≤ r.1 := of_decide_eq_true (List.all_eq_true.1 hs r hr)
  exact Nat.not_lt_of_le (Nat.le_trans hle hlo) hc

end GlyphEffects.Text
