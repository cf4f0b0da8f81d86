/-! # Division to the nearest integer

A quotient of natural numbers is rounded to the nearest integer, and a half goes to the even
neighbour. Every conversion of a number in this library rounds by this one rule.

* `divNearest` is the rounded quotient.
* `divNearest_error` says that the rounded quotient is within half a unit.
-/

namespace GlyphEffects.Number

/-- The integer nearest to `n / d`; a half goes to the even neighbour. -/
def divNearest (n d : Nat) : Nat :=
  if 2 * (n % d) < d ∨ 2 * (n % d) = d ∧ n / d % 2 = 0 then n / d else n / d + 1

theorem divNearest_error (n : Nat) {d : Nat} (hd : 0 < d) :
    2 * n ≤ 2 * (divNearest n d * d) + d ∧ 2 * (divNearest n d * d) ≤ 2 * n + d := by
  have hn : n / d * d + n % d = n := Nat.div_add_mod' n d
  have hr : n % d < d := Nat.mod_lt n hd
  have hs : (n / d + 1) * d = n / d * d + d := Nat.succ_mul _ _
  unfold divNearest
  split <;> omega

end GlyphEffects.Number
