import Mathlib.Logic.Function.Basic
import Mathlib.Tactic.SplitIfs
import GlyphEffects.Text.Delimiter
import GlyphEffects.Text.Quoted

/-! # What a quotation tells

A quotation shows every sign that it is written with, and it says which text it quotes: no text is
quoted as another one is, and where a quotation ends does not depend on what follows it.

* `toDigits_injective`: a number is told from its digits.
* `quotedChar_cases`: the three forms in which a character stands between quotes.
* `isHidden_of_mem_quoted`: **nothing hidden is written in a quotation**.
* `quoted_append_inj`: **a text is told from its quotation**, whatever follows it.
-/

namespace GlyphEffects.Text

variable {c d : Char}

/-! ## Digits -/

theorem exists_digitChar_of_mem_toDigits {b n : Nat} (hb : 1 < b) (h : c ∈ Nat.toDigits b n) :
    ∃ k, c = Nat.digitChar k := by
  induction n using Nat.strongRecOn with
  | ind n ih =>
    rw [Nat.toDigits_eq_if hb] at h
    split at h
    · exact ⟨_, List.mem_singleton.1 h⟩
    · rcases List.mem_append.1 h with h | h
      · exact ih (n / b) (Nat.div_lt_self (by omega) hb) h
      · exact ⟨_, List.mem_singleton.1 h⟩

theorem not_mem_toDigits {b : Nat} (hb : 1 < b) (hc : ∀ k, Nat.digitChar k ≠ c) (n : Nat) :
    c ∉ Nat.toDigits b n := by
  intro h
  obtain ⟨k, rfl⟩ := exists_digitChar_of_mem_toDigits hb h
  exact hc k rfl

/-- Two numbers with the same digits are one number. -/
theorem toDigits_injective {b : Nat} (hb : 1 < b) (hb' : b ≤ 16) :
    Function.Injective (Nat.toDigits b) := by
  have hdigit : ∀ k < 16, ∀ l < 16, Nat.digitChar k = Nat.digitChar l → k = l := by decide
  intro m
  induction m using Nat.strongRecOn with
  | ind m ih =>
    intro n h
    rw [Nat.toDigits_eq_if hb (n := m), Nat.toDigits_eq_if hb (n := n)] at h
    have hpos : ∀ k, 0 < (Nat.toDigits b k).length := fun k => Nat.length_toDigits_pos
    split_ifs at h with hm hn hn
    · exact hdigit m (by omega) n (by omega) (List.cons.inj h).1
    · have hlength := congrArg List.length h
      rw [List.length_append, List.length_singleton, List.length_singleton] at hlength
      exact absurd hlength (by have := hpos (n / b); omega)
    · have hlength := congrArg List.length h
      rw [List.length_append, List.length_singleton, List.length_singleton] at hlength
      exact absurd hlength (by have := hpos (m / b); omega)
    · obtain ⟨hhead, hlast⟩ := List.append_inj' h rfl
      have hquot : m / b = n / b := ih (m / b) (Nat.div_lt_self (by omega) hb) hhead
      have hm' : m % b < b := Nat.mod_lt m (by omega)
      have hn' : n % b < b := Nat.mod_lt n (by omega)
      have hrem : m % b = n % b := hdigit _ (by omega) _ (by omega) (List.cons.inj hlast).1
      rw [← Nat.div_add_mod m b, ← Nat.div_add_mod n b, hquot, hrem]

/-! ## Quotations -/

/-- The character that a sign after a backslash stands for. -/
def escaped : Char → Char
  | 't' => '\t'
  | 'r' => '\r'
  | 'n' => '\n'
  | '0' => '\x00'
  | c => c

/-- A character stands for itself, or a sign after a backslash stands for it, or its code point. -/
theorem quotedChar_cases (c : Char) :
    (quotedChar c = [c] ∧ isHidden c = false ∧ c ≠ '"' ∧ c ≠ '\\') ∨
    (∃ x ∈ ['"', '\\', 't', 'r', 'n', '0'], quotedChar c = ['\\', x] ∧ c = escaped x) ∨
    quotedChar c = '\\' :: 'u' :: '\x7b' :: (Nat.toDigits 16 c.toNat ++ ['\x7d']) := by
  rw [quotedChar]
  split_ifs with hsign htab hreturn hfeed hnull hhidden
  · refine .inr (.inl ⟨c, ?_, rfl, ?_⟩) <;> obtain rfl | rfl := hsign <;> decide
  · exact .inr (.inl ⟨'t', by decide, rfl, htab⟩)
  · exact .inr (.inl ⟨'r', by decide, rfl, hreturn⟩)
  · exact .inr (.inl ⟨'n', by decide, rfl, hfeed⟩)
  · exact .inr (.inl ⟨'0', by decide, rfl, Char.toNat_inj.1 hnull⟩)
  · exact .inr (.inr rfl)
  · exact .inl ⟨rfl, Bool.not_eq_true _ ▸ hhidden, not_or.1 hsign⟩

theorem isHidden_digitChar (k : Nat) : isHidden (Nat.digitChar k) = false := by
  by_cases h : k < 16
  · have hall : ∀ k < 16, 0x20 ≤ (Nat.digitChar k).toNat ∧ (Nat.digitChar k).toNat < 0x7F := by
      decide
    exact isHidden_of_ascii (hall k h).1 (hall k h).2
  · rw [Nat.digitChar_eq_star.2 (Nat.le_of_not_lt h)]
    exact isHidden_of_ascii (by decide) (by decide)

theorem isHidden_of_mem_quotedChar {x : Char} (h : x ∈ quotedChar c) : isHidden x = false := by
  have hsigns : ∀ x ∈ ['"', '\\', 't', 'r', 'n', '0', 'u', '\x7b', '\x7d'],
      0x20 ≤ x.toNat ∧ x.toNat < 0x7F := by simp
  have hshown := fun x hx => isHidden_of_ascii (hsigns x hx).1 (hsigns x hx).2
  obtain ⟨hc, hself, -⟩ | ⟨y, hy, hc, -⟩ | hc := quotedChar_cases c
  · rw [hc] at h
    exact List.mem_singleton.1 h ▸ hself
  · rw [hc] at h
    exact hshown x (by grind)
  · rw [hc] at h
    by_cases hdigit : x ∈ Nat.toDigits 16 c.toNat
    · obtain ⟨k, rfl⟩ := exists_digitChar_of_mem_toDigits (by decide) hdigit
      exact isHidden_digitChar k
    · exact hshown x (by grind)

/-- **Nothing hidden is written between quotes.** -/
theorem isHidden_of_mem_quoted {s : String} (h : c ∈ (quoted s).toList) : isHidden c = false := by
  have hquote : isHidden '"' = false := isHidden_of_ascii (by decide) (by decide)
  rw [quoted, String.toList_ofList, List.mem_append, List.mem_cons, List.mem_flatMap,
    List.mem_singleton] at h
  obtain (rfl | ⟨d, -, hd⟩) | rfl := h
  · exact hquote
  · exact isHidden_of_mem_quotedChar hd
  · exact hquote

/-- A quote between the quotes stands behind a backslash. -/
theorem quotedChar_append_ne (c : Char) (xs ys : List Char) : quotedChar c ++ xs ≠ '"' :: ys := by
  intro h
  obtain ⟨hc, -, hquote, -⟩ | ⟨x, -, hc, -⟩ | hc := quotedChar_cases c
  · rw [hc] at h
    exact hquote (List.cons.inj h).1
  · rw [hc] at h
    exact absurd (List.cons.inj h).1 (by decide)
  · rw [hc] at h
    exact absurd (List.cons.inj h).1 (by decide)

theorem quotedChar_append_inj {xs ys : List Char} (h : quotedChar c ++ xs = quotedChar d ++ ys) :
    c = d ∧ xs = ys := by
  have hsign : ∀ x ∈ ['"', '\\', 't', 'r', 'n', '0'], x ≠ 'u' := by simp
  -- what is written in two different forms differs in its first or in its second character
  obtain ⟨hc, -, -, hc'⟩ | ⟨x, hx, hc, rfl⟩ | hc := quotedChar_cases c <;>
    obtain ⟨hd, -, -, hd'⟩ | ⟨y, hy, hd, rfl⟩ | hd := quotedChar_cases d <;> rw [hc, hd] at h
  · exact List.cons.inj h
  · exact absurd (List.cons.inj h).1 hc'
  · exact absurd (List.cons.inj h).1 hc'
  · exact absurd (List.cons.inj h).1.symm hd'
  · obtain ⟨rfl, hrest⟩ := List.cons.inj (List.cons.inj h).2
    exact ⟨rfl, hrest⟩
  · exact absurd (List.cons.inj (List.cons.inj h).2).1 (hsign x hx)
  · exact absurd (List.cons.inj h).1.symm hd'
  · exact absurd (List.cons.inj (List.cons.inj h).2).1.symm (hsign y hy)
  · have hdigits : ∀ n, '\x7d' ∉ Nat.toDigits 16 n :=
      not_mem_toDigits (by decide) fun k => Nat.digitChar_ne _ (by decide)
    simp only [List.cons_append, List.append_assoc, List.nil_append, List.cons.injEq, true_and] at h
    have hbefore := congrArg (before '\x7d') h
    have honward := congrArg (onward '\x7d') h
    rw [before_append_cons (hdigits _), before_append_cons (hdigits _)] at hbefore
    rw [onward_append_cons (hdigits _), onward_append_cons (hdigits _)] at honward
    exact ⟨Char.toNat_inj.1 (toDigits_injective (by decide) (by decide) hbefore),
      (List.cons.inj honward).2⟩

theorem flatMap_quotedChar_append_inj {cs ds xs ys : List Char}
    (h : cs.flatMap quotedChar ++ '"' :: xs = ds.flatMap quotedChar ++ '"' :: ys) :
    cs = ds ∧ xs = ys := by
  induction cs generalizing ds with
  | nil =>
    cases ds with
    | nil => exact ⟨rfl, (List.cons.inj h).2⟩
    | cons d ds =>
      rw [List.flatMap_cons, List.append_assoc] at h
      exact absurd h.symm (quotedChar_append_ne d _ _)
  | cons c cs ih =>
    rw [List.flatMap_cons, List.append_assoc] at h
    cases ds with
    | nil => exact absurd h (quotedChar_append_ne c _ _)
    | cons d ds =>
      rw [List.flatMap_cons, List.append_assoc] at h
      obtain ⟨rfl, hrest⟩ := quotedChar_append_inj h
      obtain ⟨rfl, hxs⟩ := ih hrest
      exact ⟨rfl, hxs⟩

theorem toList_quoted_append (s : String) (xs : List Char) :
    (quoted s).toList ++ xs = '"' :: (s.toList.flatMap quotedChar ++ '"' :: xs) := by
  rw [quoted, String.toList_ofList, List.append_assoc]
  rfl

/-- **A text is told from its quotation**, wherever that stands. -/
theorem quoted_append_inj {s t : String} {xs ys : List Char}
    (h : (quoted s).toList ++ xs = (quoted t).toList ++ ys) : s = t ∧ xs = ys := by
  rw [toList_quoted_append, toList_quoted_append] at h
  obtain ⟨hst, hxs⟩ := flatMap_quotedChar_append_inj (List.cons.inj h).2
  exact ⟨String.toList_inj.1 hst, hxs⟩

end GlyphEffects.Text
