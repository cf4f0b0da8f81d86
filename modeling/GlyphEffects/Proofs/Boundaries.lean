import Mathlib
import GlyphEffects.Proofs.Reading

/-! # Where tags begin and end

A tag is found by looking ahead for its closing brace, so what a text says depends on what is
written after it only if a brace is left open at its end. Two texts of which the first is closed are
read one after the other, and text on both sides of the boundary becomes one. In a text from which
the tags were taken out no brace is closed: taking tags out never makes a new one.

* `Span.EndsClosed`: no brace is left open at the end of a text.
* `Span.Joined`: how the spans of two texts are put together. `Span.joined_split`: those of a closed
  text and of any other text are.
* `ofSpans_append`: spans are read one after the other, with `joinTokens` at the boundary.
* `parse_append_of_endsClosed`: **a closed text and any other text are read one after the other.**
* `Span.WellFormed.not_mem_onward`: behind an opened brace that is left in a text without its tags,
  no brace is closed.
* `parse_strip_inert`: **a text without its tags is nothing but text.**
-/

namespace GlyphEffects.Markup

open GlyphEffects.Text

namespace Span

variable {L K M : List Span}

/-! ## Spans of two texts -/

/-- No brace is left open at the end of the spans: the last one is no plain span that starts with
an opening brace. -/
def EndsClosed (L : List Span) : Prop :=
  ∀ t, L.getLast? = some (plain t) → t.head? ≠ some '{'

/-- The spans of two texts put together are those of the one and then those of the other, but for
the last plain span of the one, with which the first plain span of the other may go on. -/
inductive Joined : List Span → List Span → List Span → Prop
  | apart (L K : List Span) : Joined L K (L ++ K)
  | merged (L : List Span) (t u : List Char) (K : List Span) :
      Joined (L ++ [plain t]) (plain u :: K) (L ++ plain (t ++ u) :: K)

theorem Joined.cons (h : Joined L K M) (a : Span) : Joined (a :: L) K (a :: M) := by
  cases h with
  | apart => exact .apart (a :: L) K
  | merged L t u K => exact .merged (a :: L) t u K

theorem EndsClosed.of_cons {a : Span} (h : EndsClosed (a :: L)) : EndsClosed L := by
  intro t ht
  refine h t ?_
  rw [List.getLast?_cons, ht]
  rfl

/-- A text goes on with the first plain span of what follows it. -/
theorem joined_plain {t : List Char} (ht : t ≠ []) (ho : '{' ∉ t) (s : List Char) :
    Joined [plain t] (split s) (split (t ++ s)) := by
  by_cases hs : ∀ c, s.head? = some c → c = '{'
  · rw [split_plain_append ht ho hs]
    exact .apart [plain t] (split s)
  · cases s with
    | nil => exact absurd nofun hs
    | cons c cs =>
      have hc : c ≠ '{' := fun he => hs fun d hd => (Option.some.inj hd).symm.trans he
      have hu : '{' ∉ c :: before '{' cs := by
        rw [List.mem_cons, not_or]
        exact ⟨Ne.symm hc, not_mem_before '{' cs⟩
      have hrest : ∀ d, (onward '{' cs).head? = some d → d = '{' := by
        intro d hd
        obtain ⟨ds, hds⟩ := List.head?_eq_some_iff.1 hd
        exact eq_of_onward_eq_cons hds
      have hcut : c :: cs = (c :: before '{' cs) ++ onward '{' cs := by
        rw [List.cons_append, before_append_onward]
      have hone : split (c :: cs) = plain (c :: before '{' cs) :: split (onward '{' cs) := by
        rw [hcut, split_plain_append (List.cons_ne_nil _ _) hu hrest]
      have htwo : split (t ++ c :: cs) =
          plain (t ++ c :: before '{' cs) :: split (onward '{' cs) := by
        rw [hcut, ← List.append_assoc]
        refine split_plain_append (by simp) ?_ hrest
        rw [List.mem_append, not_or]
        exact ⟨ho, hu⟩
      rw [hone, htwo]
      exact .merged [] t (c :: before '{' cs) (split (onward '{' cs))

/-- The look-ahead for the end of a tag stays within the spans, if no brace is left open. -/
theorem WellFormed.joined_split (hw : WellFormed L) (h : EndsClosed L) (s : List Char) :
    Joined L (split s) (split (L.flatMap spell ++ s)) := by
  induction L with
  | nil => exact .apart [] (split s)
  | cons a L ih =>
    obtain ⟨ha, hL⟩ := wellFormed_cons_iff.1 hw
    have ih := ih hL h.of_cons
    rw [List.flatMap_cons, List.append_assoc]
    cases a with
    | braced b =>
      rw [split_braced_append ha]
      exact ih.cons (braced b)
    | plain t =>
      obtain ⟨hne, hopen, hnext⟩ := ha
      have ho : '{' ∉ t := by
        intro ho
        obtain ⟨rfl, hhead, -⟩ := hopen ho
        exact h t rfl hhead
      cases L with
      | nil => exact joined_plain hne ho s
      | cons b L =>
        have hhead : ∀ c, (((b :: L).flatMap spell) ++ s).head? = some c → c = '{' := by
          intro c hc
          have hspell := (wellFormed_cons_iff.1 hL).1.spell_ne_nil
          rw [List.head?_append_of_ne_nil _ (by simp [hspell])] at hc
          exact head?_flatMap_spell hnext hc
        rw [spell, split_plain_append hne ho hhead]
        exact ih.cons (plain t)

/-- **The spans of a closed text do not depend on what follows it.** -/
theorem joined_split {s : List Char} (h : EndsClosed (split s)) (t : List Char) :
    Joined (split s) (split t) (split (s ++ t)) := by
  have hjoined := (wellFormed_split s).joined_split h t
  rwa [flatMap_spell_split] at hjoined

theorem Joined.flatMap_plainOf (h : Joined L K M) :
    M.flatMap plainOf = L.flatMap plainOf ++ K.flatMap plainOf := by
  cases h with
  | apart => exact List.flatMap_append
  | merged L t u K => simp [plainOf]

end Span

/-! ## Reading two texts -/

/-- Tokens put one after the other; a text that ends the first ones and a text that starts the
others become one text. -/
def joinTokens : List Token → List Token → List Token
  | [], us => us
  | [.text c], .text d :: us => .text (c ++ d) :: us
  | t :: ts, us => t :: joinTokens ts us

section JoinTokens

variable {ts us : List Token}

theorem exists_eq_text {t : Token} (h : t.isText) : ∃ c, t = .text c := by
  cases t with
  | text c => exact ⟨c, rfl⟩
  | opening => cases h
  | closing => cases h

theorem joinTokens_tag_cons {t : Token} (h : t.isText = false) :
    joinTokens (t :: ts) us = t :: joinTokens ts us := by
  cases t with
  | text => cases h
  | opening => rw [joinTokens]; nofun
  | closing => rw [joinTokens]; nofun

theorem joinTokens_cons_cons (t u : Token) :
    joinTokens (t :: u :: ts) us = t :: joinTokens (u :: ts) us := by
  rw [joinTokens]
  nofun

theorem joinTokens_singleton {t : Token} (h : ∀ u, us.head? = some u → ¬ (t.isText ∧ u.isText)) :
    joinTokens [t] us = t :: us := by
  rw [joinTokens, joinTokens]
  rintro c d us rfl rfl -
  exact h _ rfl ⟨rfl, rfl⟩

theorem joinTokens_merged (c d : String) :
    joinTokens (ts ++ [.text c]) (.text d :: us) = ts ++ .text (c ++ d) :: us := by
  induction ts with
  | nil => rfl
  | cons t ts ih =>
    cases ts with
    | nil => exact joinTokens_cons_cons t (.text c)
    | cons u ts => exact (joinTokens_cons_cons t u).trans (congrArg (t :: ·) ih)

theorem joinTokens_apart
    (h : ∀ t u, ts.getLast? = some t → us.head? = some u → ¬ (t.isText ∧ u.isText)) :
    joinTokens ts us = ts ++ us := by
  induction ts with
  | nil => rfl
  | cons t ts ih =>
    cases ts with
    | nil => exact joinTokens_singleton fun u => h t u rfl
    | cons u ts =>
      rw [joinTokens_cons_cons, ih fun v w hv => h v w (by simpa using hv)]
      rfl

/-- What is put behind tokens does not change whether the first of them is text. -/
theorem exists_joinTokens_cons (t : Token) (ts us : List Token) :
    ∃ v vs, joinTokens (t :: ts) us = v :: vs ∧ v.isText = t.isText := by
  generalize hl : t :: ts = l
  fun_cases joinTokens l us with
  | case1 => cases hl
  | case2 c d us =>
    cases hl
    exact ⟨_, _, rfl, rfl⟩
  | case3 =>
    cases hl
    exact ⟨_, _, rfl, rfl⟩

theorem joinTokens_text_text (c d : String) (us vs : List Token) :
    joinTokens (.text (c ++ d) :: us) vs =
      joinTokens [.text c] (joinTokens (.text d :: us) vs) := by
  cases us with
  | nil =>
    cases vs with
    | nil => rfl
    | cons v vs =>
      cases v with
      | text e => exact congrArg (Token.text · :: vs) String.append_assoc
      | opening => rfl
      | closing => rfl
  | cons u us => rw [joinTokens_cons_cons, joinTokens_cons_cons]; rfl

theorem joinTokens_assoc (ts us vs : List Token) :
    joinTokens (joinTokens ts us) vs = joinTokens ts (joinTokens us vs) := by
  induction ts with
  | nil => rfl
  | cons t ts ih =>
    cases ts with
    | nil =>
      cases us with
      | nil => cases t <;> rfl
      | cons u us =>
        by_cases h : t.isText ∧ u.isText
        · obtain ⟨⟨c, rfl⟩, ⟨d, rfl⟩⟩ := h.imp exists_eq_text exists_eq_text
          exact joinTokens_text_text c d us vs
        · obtain ⟨v, rest, hjoin, hv⟩ := exists_joinTokens_cons u us vs
          have hleft : joinTokens [t] (u :: us) = t :: u :: us :=
            joinTokens_singleton fun w hw => Option.some.inj hw ▸ h
          have hright : joinTokens [t] (v :: rest) = t :: v :: rest :=
            joinTokens_singleton fun w hw => by rwa [← Option.some.inj hw, hv]
          rw [hleft, joinTokens_cons_cons, hjoin, hright]
    | cons u ts =>
      obtain ⟨v, rest, hjoin, -⟩ := exists_joinTokens_cons u ts us
      rw [joinTokens_cons_cons, joinTokens_cons_cons, ← ih, hjoin, joinTokens_cons_cons]

end JoinTokens

theorem consText_eq_joinTokens (text : List Char) (ts : List Token) :
    consText text ts = joinTokens (textTokens text) ts := by
  fun_cases consText text ts with
  | case1 _ hempty =>
    obtain rfl := List.isEmpty_iff.1 hempty
    rfl
  | case2 hne content rest =>
    rw [textTokens, if_neg (by simpa using hne)]
    rfl
  | case3 _ hne hno =>
    rw [textTokens, if_neg (by simpa using hne), joinTokens_singleton]
    rintro u hu ⟨-, ht⟩
    obtain ⟨c, rfl⟩ := exists_eq_text ht
    obtain ⟨us, hus⟩ := List.head?_eq_some_iff.1 hu
    exact hno c us hus

/-- Two texts, one after the other, are one text. -/
theorem consText_append (text more : List Char) (ts : List Token) :
    consText (text ++ more) ts = consText text (consText more ts) := by
  rw [consText_eq_joinTokens, textTokens_append, consText_eq_joinTokens, joinTokens_assoc,
    ← consText_eq_joinTokens, ← consText_eq_joinTokens]

/-- Spans are read one after the other; the first fault is that of all. -/
theorem ofSpans_append (L K : List Span) :
    ofSpans (L ++ K) = (ofSpans L).bind fun ts => (ofSpans K).map (joinTokens ts) := by
  induction L with
  | nil =>
    rw [List.nil_append, ofSpans]
    cases ofSpans K <;> rfl
  | cons a L ih =>
    cases a with
    | plain text =>
      rw [List.cons_append, ofSpans, ih, ofSpans]
      cases ofSpans L with
      | error e => rfl
      | ok ts =>
        cases ofSpans K with
        | error e => rfl
        | ok us =>
          refine congrArg Except.ok ?_
          rw [consText_eq_joinTokens, consText_eq_joinTokens, joinTokens_assoc]
    | braced body =>
      rw [List.cons_append, ofSpans, ih, ofSpans]
      cases hb : Tag.read body with
      | error e => rfl
      | ok t =>
        cases ofSpans L with
        | error e => rfl
        | ok ts =>
          cases ofSpans K with
          | error e => rfl
          | ok us => exact congrArg Except.ok (joinTokens_tag_cons (Tag.isText_of_read hb)).symm

theorem Span.Joined.ofSpans_eq {L K M : List Span} (h : Span.Joined L K M) :
    ofSpans M = ofSpans (L ++ K) := by
  cases h with
  | apart => rfl
  | merged L t u K =>
    have hone : ofSpans (.plain (t ++ u) :: K) = ofSpans (.plain t :: .plain u :: K) := by
      rw [ofSpans, ofSpans, ofSpans]
      cases ofSpans K with
      | error e => rfl
      | ok ts => exact congrArg Except.ok (consText_append t u ts)
    rw [List.append_assoc, List.singleton_append, ofSpans_append, hone, ← ofSpans_append]

section Append

variable {a b : String} (h : Span.EndsClosed (Span.split a.toList))

include h

theorem parse_append :
    parse (a ++ b) = (parse a).bind fun ts => (parse b).map (joinTokens ts) := by
  rw [parse, String.toList_append, (Span.joined_split h b.toList).ofSpans_eq, ofSpans_append]
  rfl

theorem strip_append : strip (a ++ b) = strip a ++ strip b := by
  rw [strip, String.toList_append, (Span.joined_split h b.toList).flatMap_plainOf,
    String.ofList_append]
  rfl

end Append

/-- **A closed text and any other text are read one after the other.** The fault of the first is
that of both, and so is the fault of the second if the first has none. Their tokens are those of the
first and then those of the second, but text on both sides of the boundary becomes one text. -/
theorem parse_append_of_endsClosed (a b : String) (h : Span.EndsClosed (Span.split a.toList)) :
    (∀ e, parse a = .error e → parse (a ++ b) = .error e) ∧
      (∀ ts e, parse a = .ok ts → parse b = .error e → parse (a ++ b) = .error e) ∧
      (∀ ts us, parse a = .ok ts → parse b = .ok us →
        (∀ t u, ts.getLast? = some t → us.head? = some u → ¬ (t.isText ∧ u.isText)) →
        parse (a ++ b) = .ok (ts ++ us)) ∧
      (∀ ts c d us, parse a = .ok (ts ++ [.text c]) → parse b = .ok (.text d :: us) →
        parse (a ++ b) = .ok (ts ++ .text (c ++ d) :: us)) ∧
      strip (a ++ b) = strip a ++ strip b := by
  rw [parse_append h]
  refine ⟨fun e ha => ?_, fun ts e ha hb => ?_, fun ts us ha hb hapart => ?_,
    fun ts c d us ha hb => ?_, strip_append h⟩
  · rw [ha]
    rfl
  · rw [ha, hb]
    rfl
  · rw [ha, hb]
    exact congrArg Except.ok (joinTokens_apart hapart)
  · rw [ha, hb]
    exact congrArg Except.ok (joinTokens_merged c d)

/-- A closing brace that stands alone leaves nothing open, and text goes on behind it. -/
theorem parse_append_stray_brace :
    Span.EndsClosed (Span.split "\x7bb\x7dx\x7d".toList) ∧
      parse ("\x7bb\x7dx\x7d" ++ "y\x7b/b\x7d\x7bz") =
        .ok [.openingWith "b" [], .text "x\x7dy", .closing "b", .text "\x7bz"] := by
  have hsplit : Span.split "\x7bb\x7dx\x7d".toList = [.braced ['b'], .plain ['x', '}']] := by cbv
  have hclosed : Span.EndsClosed (Span.split "\x7bb\x7dx\x7d".toList) := by
    rw [hsplit]
    rintro t ⟨rfl⟩
    decide
  have ha : parse "\x7bb\x7dx\x7d" = .ok ([.openingWith "b" []] ++ [.text "x\x7d"]) := by cbv
  have hb : parse "y\x7b/b\x7d\x7bz" = .ok (.text "y" :: [.closing "b", .text "\x7bz"]) := by cbv
  exact ⟨hclosed, (parse_append_of_endsClosed _ _ hclosed).2.2.2.1 _ _ _ _ ha hb⟩

/-! ## Text without tags -/

namespace Span

variable {L : List Span}

theorem WellFormed.not_mem_onward (hw : WellFormed L) : '}' ∉ onward '{' (L.flatMap plainOf) := by
  induction L with
  | nil => exact List.not_mem_nil
  | cons a L ih =>
    obtain ⟨ha, hL⟩ := wellFormed_cons_iff.1 hw
    rw [List.flatMap_cons]
    cases a with
    | braced b => exact ih hL
    | plain t =>
      obtain ⟨-, hopen, -⟩ := ha
      rw [plainOf]
      by_cases ho : '{' ∈ t
      · obtain ⟨rfl, -, hclose⟩ := hopen ho
        rw [List.flatMap_nil, List.append_nil]
        exact fun hm => hclose (mem_of_mem_onward hm)
      · rw [onward_append_of_not_mem ho]
        exact ih hL

/-- A text in which no opened brace is closed has no tags. -/
theorem isBraced_eq_false_of_mem_split {s : List Char} (h : '}' ∉ onward '{' s) :
    ∀ a ∈ split s, a.isBraced = false := by
  fun_induction split s with
  | case1 => exact List.forall_mem_nil _
  | case2 cs hn =>
    intro a ha
    obtain rfl := List.mem_singleton.1 ha
    rfl
  | case3 cs d rest hn ih =>
    have hclose : '}' ∉ cs := fun hm => h (by rw [onward, if_pos rfl]; exact .tail _ hm)
    rw [onward_eq_nil_iff.2 hclose] at hn
    cases hn
  | case4 c cs hc ih =>
    have hrest : onward '{' (c :: cs) = onward '{' (onward '{' cs) := by
      rw [onward, if_neg hc]
      cases hr : onward '{' cs with
      | nil => rfl
      | cons d ds => rw [onward, if_pos (eq_of_onward_eq_cons hr)]
    rw [hrest] at h
    intro a ha
    rcases List.mem_cons.1 ha with rfl | ha
    · rfl
    · exact ih h a ha

theorem flatMap_plainOf_of_isBraced_eq_false (h : ∀ a ∈ L, a.isBraced = false) :
    L.flatMap plainOf = L.flatMap spell := by
  refine List.flatMap_congr fun a ha => ?_
  cases a with
  | plain t => rfl
  | braced b => cases h _ ha

theorem filterMap_body?_of_isBraced_eq_false (h : ∀ a ∈ L, a.isBraced = false) :
    L.filterMap body? = [] := by
  rw [List.filterMap_eq_nil_iff]
  intro a ha
  cases a with
  | plain t => rfl
  | braced b => cases h _ ha

end Span

theorem ofSpans_of_isBraced_eq_false {L : List Span} (h : ∀ a ∈ L, a.isBraced = false) :
    ofSpans L = .ok (textTokens (L.flatMap plainOf)) := by
  induction L with
  | nil => rfl
  | cons a L ih =>
    cases a with
    | plain t =>
      rw [ofSpans, ih fun b hb => h b (List.mem_cons_of_mem _ hb), List.flatMap_cons, plainOf,
        textTokens_append]
      rfl
    | braced b => cases h _ List.mem_cons_self

/-- Text outside tags holds no tag, however it was put together. -/
theorem isBraced_eq_false_of_strip (s : String) :
    ∀ a ∈ Span.split (strip s).toList, a.isBraced = false := by
  rw [strip, String.toList_ofList]
  exact Span.isBraced_eq_false_of_mem_split (Span.wellFormed_split s.toList).not_mem_onward

theorem strip_strip (s : String) : strip (strip s) = strip s := by
  rw [strip, Span.flatMap_plainOf_of_isBraced_eq_false (isBraced_eq_false_of_strip s),
    Span.flatMap_spell_split, String.ofList_toList]

theorem parse_strip (s : String) : parse (strip s) = .ok (textTokens (strip s).toList) := by
  have hplain := isBraced_eq_false_of_strip s
  rw [parse, ofSpans_of_isBraced_eq_false hplain,
    Span.flatMap_plainOf_of_isBraced_eq_false hplain, Span.flatMap_spell_split]

/-- **A text without its tags is nothing but text.** It is read without fault as one text, or as
nothing if it is empty; there are no tags to be taken out of it again, and no tag arises where text
from both sides of a tag meets. -/
theorem parse_strip_inert (s : String) :
    (strip s = "" → parse (strip s) = .ok []) ∧
      (strip s ≠ "" → parse (strip s) = .ok [.text (strip s)]) ∧
      strip (strip s) = strip s ∧ tagBodies (strip s) = [] := by
  refine ⟨fun he => ?_, fun hne => ?_, strip_strip s, ?_⟩
  · rw [parse_strip, he]
    rfl
  · rw [parse_strip, textTokens, if_neg (by simpa using hne), String.ofList_toList]
  · exact Span.filterMap_body?_of_isBraced_eq_false (isBraced_eq_false_of_strip s)

example : strip "\x7ba\x7d\x7b\x7b\x7db\x7d" = "b\x7d" := by cbv

end GlyphEffects.Markup
