import Mathlib
import GlyphEffects.Number.Literal
import GlyphEffects.Proofs.Doubles
import GlyphEffects.Text.Blank
import GlyphEffects.Text.Letter

/-! # Words and numerals

The pieces of which a tag is written: runs of letters or word characters, and literals. A run ends
where a character of another class follows it, a literal that is written down is read back as it
was, and no piece has a blank in it.

* `takeWhile_append_of_all` and `dropWhile_append_of_all` cut a text where a run ends.
* `isBlank_eq_false_of_isWordChar`: no word character is a blank.
* `Literal.read?_spell`: **a literal is read back.**
* `Literal.isFinite_value_iff` and `isFinite_of_ofLiteral?`: the numbers that are read are the
  finite ones.
-/

namespace GlyphEffects.Text

/-! ## Runs -/

section Run

variable {α : Type} {p : α → Bool} {s rest : List α}

theorem takeWhile_append_of_all (hs : ∀ c ∈ s, p c) (hr : ∀ c, rest.head? = some c → p c = false) :
    (s ++ rest).takeWhile p = s := by
  rw [List.takeWhile_append_of_pos hs]
  cases rest with
  | nil => rw [List.takeWhile_nil, List.append_nil]
  | cons c cs => rw [List.takeWhile_cons, hr c rfl, if_neg Bool.false_ne_true, List.append_nil]

theorem dropWhile_append_of_all (hs : ∀ c ∈ s, p c) (hr : ∀ c, rest.head? = some c → p c = false) :
    (s ++ rest).dropWhile p = rest := by
  rw [List.dropWhile_append_of_pos hs]
  cases rest with
  | nil => rfl
  | cons c cs => rw [List.dropWhile_cons, hr c rfl, if_neg Bool.false_ne_true]

end Run

/-! ## Word characters -/

theorem isWordChar_of_isDigit {c : Char} (h : c.isDigit) : isWordChar c := by
  have hlow : c.toNat < 0x80 := by
    simp only [Char.isDigit, Bool.and_eq_true, decide_eq_true_eq] at h
    exact Nat.lt_of_le_of_lt (UInt32.le_iff_toNat_le.1 h.2) (by decide)
  simp [isWordChar, isNumber, hlow, h]

theorem isBlank_eq_false_of_isWordChar {c : Char} (h : isWordChar c) : isBlank c = false := by
  -- there are few blanks, so one looks at each
  have hblanks : ∀ r ∈ blanks, ∀ n ∈ List.range' r.1 (r.2 + 1 - r.1),
      isWordChar (Char.ofNat n) = false := by decide +kernel
  by_contra hb
  rw [Bool.not_eq_false] at hb
  obtain ⟨r, hr, hlow, hhigh⟩ := CodePoints.has_iff.1 hb
  have hn := hblanks r hr c.toNat (List.mem_range'_1.2 ⟨hlow, by omega⟩)
  rw [Char.ofNat_toNat, h] at hn
  cases hn

theorem trimStart_eq_self {s : List Char} (h : ∀ c ∈ s, isBlank c = false) : trimStart s = s := by
  cases s with
  | nil => rfl
  | cons c cs =>
    rw [trimStart, List.dropWhile_cons, h c List.mem_cons_self, if_neg Bool.false_ne_true]

/-- A text without blanks has none to take off. -/
theorem trim_eq_self {s : List Char} (h : ∀ c ∈ s, isBlank c = false) : trim s = s := by
  have hend : s.reverse.dropWhile isBlank = s.reverse :=
    trimStart_eq_self fun c hc => h c (List.mem_reverse.1 hc)
  rw [trim, trimStart_eq_self h, trimEnd, hend, List.reverse_reverse]

end GlyphEffects.Text

namespace GlyphEffects.Number

open GlyphEffects.Text

namespace Literal

/-! ## Literals read back -/

theorem readUnsigned?_append (negative : Bool) {whole fraction : List Char} (hne : whole ≠ [])
    (hw : ∀ c ∈ whole, c.isDigit) (hf : ∀ c ∈ fraction, c.isDigit) :
    readUnsigned? negative (whole ++ if fraction.isEmpty then [] else '.' :: fraction) =
      some ⟨negative, whole, fraction⟩ := by
  have hstop : ∀ c, (if fraction.isEmpty then [] else '.' :: fraction).head? = some c →
      c.isDigit = false := by
    intro c hc
    split at hc
    · cases hc
    · obtain rfl := Option.some.inj hc
      rfl
  rw [readUnsigned?, takeWhile_append_of_all hw hstop, dropWhile_append_of_all hw hstop,
    if_neg (by simpa using hne)]
  cases fraction with
  | nil => rfl
  | cons d ds =>
    have hall : (d :: ds).all Char.isDigit = true := List.all_eq_true.2 hf
    simp [hall]

theorem read?_spell {l : Literal} (h : l.WellFormed) : read? l.spell = some l := by
  obtain ⟨negative, whole, fraction⟩ := l
  obtain ⟨hne, hw, hf⟩ := h
  have hread := readUnsigned?_append negative hne hw hf
  cases negative with
  | true => exact hread
  | false =>
    cases whole with
    | nil => exact absurd rfl hne
    | cons d ds =>
      have hd : d ≠ '-' := by
        rintro rfl
        exact absurd (hw '-' List.mem_cons_self) (by decide)
      simp only [spell, Bool.false_eq_true, if_false, List.nil_append] at hread ⊢
      rw [List.cons_append, read?]
      · exact hread
      · intro s hs
        exact hd (List.cons.inj hs).1

/-- The characters of a literal are digits, minus signs and points. -/
theorem mem_spell {l : Literal} (h : l.WellFormed) {c : Char} (hc : c ∈ l.spell) :
    c.isDigit ∨ c = '-' ∨ c = '.' := by
  obtain ⟨negative, whole, fraction⟩ := l
  obtain ⟨-, hw, hf⟩ := h
  rcases List.mem_append.1 hc with hc | hc
  · rcases List.mem_append.1 hc with hc | hc
    · split at hc
      · exact .inr (.inl (List.mem_singleton.1 hc))
      · cases hc
    · exact .inl (hw c hc)
  · split at hc
    · cases hc
    · rcases List.mem_cons.1 hc with rfl | hc
      · exact .inr (.inr rfl)
      · exact .inl (hf c hc)

end Literal

/-! ## Finite numbers -/

namespace Literal

/-- The double-precision number nearest to a literal, and an infinity beyond the finite range. -/
def value (l : Literal) : Float :=
  Float.ofBits (UInt64.ofNat ((if l.negative then Nat.pow 2 63 else 0) + l.magnitude))

theorem toFloat?_eq (l : Literal) :
    l.toFloat? = if l.magnitude < Format.double.infinity then some l.value else none := rfl

theorem magnitude_le (l : Literal) : l.magnitude ≤ Format.double.infinity := Nat.min_le_left _ _

theorem isFinite_value_iff (l : Literal) :
    l.value.isFinite ↔ l.magnitude < Format.double.infinity := by
  have hinf : Format.double.infinity = 0x7FF0000000000000 := by decide
  constructor
  · intro h
    refine Nat.lt_of_le_of_ne l.magnitude_le fun he => ?_
    rw [value, he] at h
    cases hn : l.negative <;> rw [hn] at h <;> exact absurd h (by decide)
  · exact isFinite_ofMagnitude

end Literal

/-- A number that is read is finite. -/
theorem isFinite_of_ofLiteral? {s : List Char} {x : Float} (h : ofLiteral? s = some x) :
    x.isFinite := by
  obtain ⟨l, -, hl⟩ := Option.bind_eq_some_iff.1 h
  rw [Literal.toFloat?_eq, Option.ite_none_right_eq_some] at hl
  obtain ⟨hfinite, hx⟩ := hl
  exact Option.some.inj hx ▸ l.isFinite_value_iff.2 hfinite

theorem ofLiteral?_spell {l : Literal} (h : l.WellFormed) (hfinite : l.value.isFinite) :
    ofLiteral? l.spell = some l.value := by
  rw [ofLiteral?, Literal.read?_spell h, Option.bind_some, Literal.toFloat?_eq,
    if_pos (l.isFinite_value_iff.1 hfinite)]

end GlyphEffects.Number
