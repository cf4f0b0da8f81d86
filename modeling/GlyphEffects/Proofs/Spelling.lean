import Mathlib.Data.List.Basic
import GlyphEffects.Markup.Span

/-! # Spelling and splitting

Writing spans down and cutting the text again gives the spans back exactly when they are well
formed: every text has one decomposition into well-formed spans, and that is how it is cut.

* `Span.WellFormed` says which lists of spans are read off a text, and `Span.Precedes` which span may
  stand before which list; `Span.wellFormed_cons_iff` puts them together.
* `Span.split_braced_append`, `Span.split_plain_append` and `Span.split_unclosed` cut the first span
  off.
* `Span.split_bijective`: **nothing of a text is lost, and the well-formed lists are those that come
  back.**
-/

namespace GlyphEffects.Markup.Span

open GlyphEffects.Text

/-! ## Well-formed lists -/

/-- Braced spans have no closing brace in them, and plain spans are not empty. An opening brace
stands in a plain span only when that is the last one, starts with it and is never closed; and a
plain span follows another only when it starts so. -/
structure WellFormed (L : List Span) : Prop where
  body : ∀ b, braced b ∈ L → '}' ∉ b
  nonempty : ∀ t, plain t ∈ L → t ≠ []
  unclosed : ∀ (i : Nat) t, L[i]? = some (plain t) → '{' ∈ t →
    i + 1 = L.length ∧ t.head? = some '{' ∧ '}' ∉ t
  follows : ∀ (i : Nat) t u, L[i]? = some (plain t) → L[i + 1]? = some (plain u) →
    u.head? = some '{'

/-- A span may stand before the spans of a list. -/
def Precedes : Span → List Span → Prop
  | braced b, _ => '}' ∉ b
  | plain t, L =>
    t ≠ [] ∧ ('{' ∈ t → L = [] ∧ t.head? = some '{' ∧ '}' ∉ t) ∧
      ∀ u, L.head? = some (plain u) → u.head? = some '{'

theorem wellFormed_nil : WellFormed [] where
  body _ h := nomatch h
  nonempty _ h := nomatch h
  unclosed _ _ h := nomatch h
  follows _ _ _ h := nomatch h

theorem WellFormed.of_cons {a : Span} {L : List Span} (h : WellFormed (a :: L)) :
    WellFormed L where
  body b hb := h.body b (List.mem_cons_of_mem a hb)
  nonempty t ht := h.nonempty t (List.mem_cons_of_mem a ht)
  unclosed i t ht ho := by
    obtain ⟨hi, hs⟩ := h.unclosed (i + 1) t (by simpa using ht) ho
    rw [List.length_cons] at hi
    exact ⟨by omega, hs⟩
  follows i t u ht hu := h.follows (i + 1) t u (by simpa using ht) (by simpa using hu)

theorem WellFormed.precedes {a : Span} {L : List Span} (h : WellFormed (a :: L)) :
    Precedes a L := by
  cases a with
  | braced b => exact h.body b List.mem_cons_self
  | plain t =>
    refine ⟨h.nonempty t List.mem_cons_self, fun ho => ?_, fun u hu => ?_⟩
    · obtain ⟨hi, hs⟩ := h.unclosed 0 t rfl ho
      rw [List.length_cons] at hi
      exact ⟨List.length_eq_zero_iff.1 (by omega), hs⟩
    · refine h.follows 0 t u rfl ?_
      rw [List.getElem?_cons_succ, ← List.head?_eq_getElem?]
      exact hu

theorem Precedes.wellFormed {a : Span} {L : List Span} (ha : Precedes a L) (h : WellFormed L) :
    WellFormed (a :: L) where
  body b hb := by
    rcases List.mem_cons.1 hb with rfl | hb
    · exact ha
    · exact h.body b hb
  nonempty t ht := by
    rcases List.mem_cons.1 ht with rfl | ht
    · exact ha.1
    · exact h.nonempty t ht
  unclosed i t ht ho := by
    cases i with
    | zero =>
      obtain rfl := Option.some.inj ht
      obtain ⟨rfl, hs⟩ := ha.2.1 ho
      exact ⟨rfl, hs⟩
    | succ i =>
      obtain ⟨hi, hs⟩ := h.unclosed i t (by simpa using ht) ho
      exact ⟨by rw [List.length_cons]; omega, hs⟩
  follows i t u ht hu := by
    cases i with
    | zero =>
      obtain rfl := Option.some.inj ht
      refine ha.2.2 u ?_
      rw [List.head?_eq_getElem?]
      simpa using hu
    | succ i => exact h.follows i t u (by simpa using ht) (by simpa using hu)

theorem wellFormed_cons_iff {a : Span} {L : List Span} :
    WellFormed (a :: L) ↔ Precedes a L ∧ WellFormed L :=
  ⟨fun h => ⟨h.precedes, h.of_cons⟩, fun h => h.1.wellFormed h.2⟩

/-! ## Cutting the first span off -/

theorem split_braced_append {b : List Char} (h : '}' ∉ b) (rest : List Char) :
    split ((braced b).spell ++ rest) = braced b :: split rest := by
  have hspell : (braced b).spell ++ rest = '{' :: (b ++ '}' :: rest) := by simp [spell]
  have hcut : onward '}' (b ++ '}' :: rest) = '}' :: rest := onward_append_cons h rest
  rw [hspell, split, if_pos rfl]
  split
  next hn =>
    rw [hcut] at hn
    cases hn
  next hn =>
    rw [hcut] at hn
    obtain ⟨-, rfl⟩ := List.cons.inj hn
    rw [before_append_cons h]

theorem split_unclosed {s : List Char} (h : '}' ∉ s) (hs : s.head? = some '{') :
    split s = [plain s] := by
  cases s with
  | nil => cases hs
  | cons c cs =>
    obtain rfl := Option.some.inj hs
    have hcut : onward '}' cs = [] := onward_eq_nil_iff.2 fun hm => h (List.mem_cons_of_mem _ hm)
    rw [split, if_pos rfl]
    split
    next => rfl
    next hn =>
      rw [hcut] at hn
      cases hn

theorem split_plain_append {t rest : List Char} (ht : t ≠ []) (ho : '{' ∉ t)
    (hr : ∀ c, rest.head? = some c → c = '{') : split (t ++ rest) = plain t :: split rest := by
  cases t with
  | nil => exact absurd rfl ht
  | cons c cs =>
    have hc : c ≠ '{' := fun h => ho (h ▸ List.mem_cons_self)
    have hcs : '{' ∉ cs := fun h => ho (List.mem_cons_of_mem c h)
    rw [List.cons_append, split, if_neg hc, before_append hcs hr, onward_append hcs hr]

/-! ## Reading off a text -/

/-- A plain span that comes first starts as the text does. -/
theorem head?_of_head?_split {s u : List Char} :
    (split s).head? = some (plain u) → u.head? = s.head? := by
  fun_cases split s with
  | case1 => exact fun h => nomatch h
  | case2 cs hn =>
    rintro ⟨rfl⟩
    rfl
  | case3 cs d rest hn => exact fun h => nomatch h
  | case4 c cs hc =>
    rintro ⟨rfl⟩
    rfl

theorem wellFormed_split (s : List Char) : WellFormed (split s) := by
  fun_induction split s with
  | case1 => exact wellFormed_nil
  | case2 cs h =>
    have hb : '}' ∉ cs := onward_eq_nil_iff.1 h
    refine Precedes.wellFormed ⟨List.cons_ne_nil _ _, fun _ => ⟨rfl, rfl, ?_⟩, ?_⟩ wellFormed_nil
    · simpa using hb
    · intro u hu
      cases hu
  | case3 cs d rest h ih => exact Precedes.wellFormed (not_mem_before '}' cs) ih
  | case4 c cs hc ih =>
    have ho : '{' ∉ c :: before '{' cs := by
      rw [List.mem_cons, not_or]
      exact ⟨Ne.symm hc, not_mem_before '{' cs⟩
    refine Precedes.wellFormed ⟨List.cons_ne_nil _ _, fun h => absurd h ho, fun u hu => ?_⟩ ih
    have hhead := head?_of_head?_split hu
    -- What is left is nothing, or starts with the brace at which the plain span ended.
    cases hr : onward '{' cs with
    | nil =>
      rw [hr, split] at hu
      cases hu
    | cons d rest => rw [hhead, hr, List.head?_cons, eq_of_onward_eq_cons hr]

/-! ## Writing and cutting again -/

/-- What follows a plain span without braces is nothing or starts with a brace. -/
theorem head?_flatMap_spell {L : List Span} {c : Char}
    (hu : ∀ u, L.head? = some (plain u) → u.head? = some '{')
    (hc : (L.flatMap spell).head? = some c) : c = '{' := by
  cases L with
  | nil => cases hc
  | cons a L =>
    cases a with
    | braced b => exact (Option.some.inj hc).symm
    | plain u =>
      have hhead := hu u rfl
      cases u with
      | nil => cases hhead
      | cons d ds => exact (Option.some.inj hc).symm.trans (Option.some.inj hhead)

theorem WellFormed.split_flatMap_spell {L : List Span} (h : WellFormed L) :
    split (L.flatMap spell) = L := by
  induction L with
  | nil => rw [List.flatMap_nil, split]
  | cons a L ih =>
    obtain ⟨ha, hL⟩ := wellFormed_cons_iff.1 h
    rw [List.flatMap_cons]
    cases a with
    | braced b => rw [split_braced_append ha, ih hL]
    | plain t =>
      obtain ⟨hne, hopen, hnext⟩ := ha
      by_cases ho : '{' ∈ t
      · obtain ⟨rfl, hhead, hclose⟩ := hopen ho
        rw [List.flatMap_nil, List.append_nil, spell, split_unclosed hclose hhead]
      · rw [spell, split_plain_append hne ho fun c => head?_flatMap_spell hnext, ih hL]

theorem Precedes.spell_ne_nil {a : Span} {L : List Span} (h : Precedes a L) : a.spell ≠ [] := by
  cases a with
  | braced b => exact List.cons_ne_nil _ _
  | plain t => exact h.1

theorem WellFormed.length_le {L : List Span} (h : WellFormed L) :
    L.length ≤ (L.flatMap spell).length := by
  induction L with
  | nil => exact Nat.le_refl 0
  | cons a L ih =>
    obtain ⟨ha, hL⟩ := wellFormed_cons_iff.1 h
    have hone := List.length_pos_iff.2 ha.spell_ne_nil
    have hrest := ih hL
    rw [List.length_cons, List.flatMap_cons, List.length_append]
    omega

/-- **Cutting and writing down are inverse.** Every text is cut into finitely many spans that spell
it, and the lists of spans that come back when their spelling is cut are the well-formed ones. -/
theorem split_bijective :
    (∀ s, (split s).flatMap spell = s ∧ (split s).length ≤ s.length) ∧
      ∀ L, split (L.flatMap spell) = L ↔ WellFormed L := by
  refine ⟨fun s => ⟨flatMap_spell_split s, ?_⟩, fun L => ⟨fun h => ?_, fun h => ?_⟩⟩
  · have hle := (wellFormed_split s).length_le
    rwa [flatMap_spell_split] at hle
  · rw [← h]
    exact wellFormed_split _
  · exact h.split_flatMap_spell

end GlyphEffects.Markup.Span
