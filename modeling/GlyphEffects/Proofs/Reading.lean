import Mathlib.Data.List.Chain
import GlyphEffects.Markup.Parse
import GlyphEffects.Proofs.Reference
import GlyphEffects.Proofs.Spelling

/-! # Two views of a format text

Reading a format text and taking its tags out look at the same spans. Whether a text can be read is
a matter of its tags alone; the tokens that are read stand in the order of the spans, all text
between two tags makes one token, and the texts of the tokens make up the text without its tags.

* `Reads spans ts`: the spans are read as the tokens. Everything that holds of the tokens read is
  shown by induction on it; `reads_iff` says that it is what `ofSpans` does.
* `consText_eq_cons` and the lemmas beside it: what a text in front of tokens changes.
* `fault?_ofSpans`: the fault of a text is that of its first faulty tag.
* `Reads.splitOnP_eq`: between two tags stands one token for all the text there.
* `parse_strip_law`: **reading and taking the tags out are consistent views of the same spans.**
-/

namespace GlyphEffects.Markup

open GlyphEffects.History GlyphEffects.Text

/-! ## Spans and tokens apart -/

namespace Span

/-- What stands between the braces. -/
def body? : Span → Option (List Char)
  | plain _ => none
  | braced body => some body

def text? : Span → Option (List Char)
  | plain text => some text
  | braced _ => none

def isBraced (a : Span) : Bool := a.body?.isSome

end Span

/-- What stands between the braces of the tags of a format text. -/
def tagBodies (s : String) : List (List Char) := (Span.split s.toList).filterMap Span.body?

/-- The texts before, between and after the tags of a format text. -/
def textRuns (s : String) : List (List Char) :=
  ((Span.split s.toList).splitOnP Span.isBraced).map (·.flatMap plainOf)

/-- One token for a text, and none for an empty one. -/
def textTokens (text : List Char) : List Token :=
  if text = [] then [] else [.text (String.ofList text)]

def isTag (t : Token) : Bool := !t.isText

/-! ## Reading span by span -/

/-- The spans are read as the tokens. -/
inductive Reads : List Span → List Token → Prop
  | nil : Reads [] []
  | plain {text : List Char} {spans : List Span} {ts : List Token} :
      Reads spans ts → Reads (.plain text :: spans) (consText text ts)
  | braced {body : List Char} {spans : List Span} {t : Token} {ts : List Token} :
      Tag.read body = .ok t → Reads spans ts → Reads (.braced body :: spans) (t :: ts)

theorem reads_iff {spans : List Span} {ts : List Token} :
    Reads spans ts ↔ ofSpans spans = .ok ts := by
  constructor
  · intro h
    induction h with
    | nil => rfl
    | plain _ ih => rw [ofSpans, ih]; rfl
    | braced hb _ ih => rw [ofSpans, hb, ih]; rfl
  · intro h
    induction spans generalizing ts with
    | nil =>
      obtain rfl := Except.ok.inj h
      exact .nil
    | cons a spans ih =>
      cases a with
      | plain text =>
        rw [ofSpans] at h
        cases hr : ofSpans spans with
        | ok us =>
          rw [hr] at h
          obtain rfl := Except.ok.inj h
          exact .plain (ih hr)
        | error e =>
          rw [hr] at h
          cases h
      | braced body =>
        rw [ofSpans] at h
        cases hb : Tag.read body with
        | ok t =>
          cases hr : ofSpans spans with
          | ok us =>
            rw [hb, hr] at h
            obtain rfl := Except.ok.inj h
            exact .braced hb (ih hr)
          | error e =>
            rw [hb, hr] at h
            cases h
        | error e =>
          rw [hb] at h
          cases h

/-- What reading a tag comes to when it succeeds. -/
theorem Tag.read_cases {body : List Char} {t : Token} (h : Tag.read body = .ok t) :
    (∃ rest, trim body = '/' :: rest ∧ t = .closing (nameOf (trimStart rest))) ∨
      ∃ args, arguments (trim body) = .ok args ∧ t = .opening (nameOf (trim body)) args := by
  unfold read at h
  split at h
  next rest hr => exact .inl ⟨rest, hr, (Except.ok.inj h).symm⟩
  next =>
    cases ha : arguments (trim body) with
    | ok args =>
      rw [ha] at h
      exact .inr ⟨args, rfl, (Except.ok.inj h).symm⟩
    | error e =>
      rw [ha] at h
      cases h

theorem Tag.isText_of_read {body : List Char} {t : Token} (h : Tag.read body = .ok t) :
    t.isText = false := by
  obtain ⟨_, -, rfl⟩ | ⟨_, -, rfl⟩ := read_cases h <;> rfl

/-! ## Text in front of tokens -/

section ConsText

variable {text : List Char} {ts : List Token}

theorem ofList_ne_empty (h : text ≠ []) : String.ofList text ≠ "" := fun he =>
  h (String.ofList_inj.1 he)

/-- Text joins the token after it only if that is text too. -/
theorem consText_eq_cons (hne : text ≠ []) (h : ∀ t, ts.head? = some t → t.isText = false) :
    consText text ts = .text (String.ofList text) :: ts := by
  fun_cases consText text ts with
  | case1 _ hempty => exact absurd (List.isEmpty_iff.1 hempty) hne
  | case2 _ content rest => nomatch h _ rfl
  | case3 => rfl

theorem mem_consText {t : Token} (h : t ∈ consText text ts) : (∃ c, t = .text c) ∨ t ∈ ts := by
  revert h
  fun_cases consText text ts with
  | case1 => exact .inr
  | case2 hne content rest =>
    intro h
    rcases List.mem_cons.1 h with rfl | h
    · exact .inl ⟨_, rfl⟩
    · exact .inr (List.mem_cons_of_mem _ h)
  | case3 =>
    intro h
    rcases List.mem_cons.1 h with rfl | h
    · exact .inl ⟨_, rfl⟩
    · exact .inr h

theorem filter_isTag_consText : (consText text ts).filter isTag = ts.filter isTag := by
  fun_cases consText text ts <;> rfl

theorem ne_empty_of_mem_consText (h : ∀ c, Token.text c ∈ ts → c ≠ "") {c : String}
    (hc : Token.text c ∈ consText text ts) : c ≠ "" := by
  revert hc
  fun_cases consText text ts with
  | case1 => exact h c
  | case2 hne content rest =>
    intro hc
    rcases List.mem_cons.1 hc with hc | hc
    · have hcontent := h content List.mem_cons_self
      obtain rfl := Token.text.inj hc
      simp [hcontent]
    · exact h c (List.mem_cons_of_mem _ hc)
  | case3 _ hne =>
    intro hc
    rcases List.mem_cons.1 hc with hc | hc
    · obtain rfl := Token.text.inj hc
      exact ofList_ne_empty (by simpa using hne)
    · exact h c hc

theorem isChain_consText (h : ts.IsChain fun t u => ¬ (t.isText ∧ u.isText)) :
    (consText text ts).IsChain fun t u => ¬ (t.isText ∧ u.isText) := by
  fun_cases consText text ts with
  | case1 => exact h
  | case2 hne content rest => exact List.isChain_cons.2 (List.isChain_cons.1 h)
  | case3 _ hne hno =>
    refine List.isChain_cons.2 ⟨fun u hu ht => ?_, h⟩
    cases ts with
    | nil => cases hu
    | cons t ts =>
      obtain rfl := Option.some.inj hu
      cases t with
      | text content => exact hno content ts rfl
      | opening => nomatch ht.2
      | closing => nomatch ht.2

theorem splitOnP_text_cons (content : String) (ts : List Token) :
    (Token.text content :: ts).splitOnP isTag =
      (ts.splitOnP isTag).modifyHead (.text content :: ·) :=
  List.splitOnP_cons_eq_if_modifyHead _ _

theorem splitOnP_tag_cons {t : Token} (h : t.isText = false) (ts : List Token) :
    (t :: ts).splitOnP isTag = [] :: ts.splitOnP isTag := by
  rw [List.splitOnP_cons_eq_if_modifyHead, if_pos (by rw [isTag, h]; rfl)]

/-- Text before the first tag stays before it. -/
theorem splitOnP_consText :
    (consText text ts).splitOnP isTag = (ts.splitOnP isTag).modifyHead (consText text) := by
  fun_cases consText text ts with
  | case1 _ hempty =>
    obtain rfl := List.isEmpty_iff.1 hempty
    cases ts.splitOnP isTag <;> rfl
  | case2 hne content rest =>
    rw [splitOnP_text_cons, splitOnP_text_cons]
    cases rest.splitOnP isTag with
    | nil => rfl
    | cons run runs =>
      have hjoin : consText text (.text content :: run) =
          .text (String.ofList text ++ content) :: run := if_neg hne
      rw [List.modifyHead_cons, List.modifyHead_cons, List.modifyHead_cons, hjoin]
  | case3 _ hne hno =>
    have hone : consText text [] = [.text (String.ofList text)] := if_neg hne
    have hhead : ∃ runs, ts.splitOnP isTag = [] :: runs := by
      cases ts with
      | nil => exact ⟨[], rfl⟩
      | cons t ts =>
        cases t with
        | text content => exact absurd rfl (hno content ts)
        | opening => exact ⟨_, splitOnP_tag_cons rfl ts⟩
        | closing => exact ⟨_, splitOnP_tag_cons rfl ts⟩
    obtain ⟨runs, hruns⟩ := hhead
    rw [splitOnP_text_cons, hruns, List.modifyHead_cons, List.modifyHead_cons, hone]

theorem textTokens_append (text rest : List Char) :
    textTokens (text ++ rest) = consText text (textTokens rest) := by
  cases text with
  | nil => rfl
  | cons c cs =>
    cases rest with
    | nil => rw [List.append_nil]; rfl
    | cons d ds =>
      rw [textTokens, List.cons_append, if_neg (List.cons_ne_nil _ _), textTokens,
        if_neg (List.cons_ne_nil _ _), ← List.cons_append, String.ofList_append]
      rfl

theorem join_contentOf_consText :
    String.join ((consText text ts).map contentOf) =
      String.ofList text ++ String.join (ts.map contentOf) := by
  fun_cases consText text ts with
  | case1 _ hempty =>
    obtain rfl := List.isEmpty_iff.1 hempty
    exact String.empty_append.symm
  | case2 hne content rest => simp [contentOf, String.append_assoc]
  | case3 _ hne hno => simp [contentOf]

end ConsText

/-! ## What is read -/

namespace Reads

variable {spans : List Span} {ts : List Token}

/-- The tags that are read stand in the order of the braced spans. -/
theorem map_filter_isTag (h : Reads spans ts) :
    (ts.filter isTag).map .ok = (spans.filterMap Span.body?).map Tag.read := by
  induction h with
  | nil => rfl
  | plain _ ih =>
    rw [filter_isTag_consText, ih]
    rfl
  | braced hb _ ih =>
    have ht : isTag _ = true := congrArg not (Tag.isText_of_read hb)
    rw [List.filter_cons_of_pos ht, List.map_cons, ih, ← hb]
    rfl

theorem ne_empty (h : Reads spans ts) : ∀ c, Token.text c ∈ ts → c ≠ "" := by
  induction h with
  | nil => exact fun c hc => nomatch hc
  | plain _ ih => exact fun c => ne_empty_of_mem_consText ih
  | braced hb _ ih =>
    intro c hc
    rcases List.mem_cons.1 hc with rfl | hc
    · nomatch Tag.isText_of_read hb
    · exact ih c hc

theorem isChain (h : Reads spans ts) : ts.IsChain fun t u => ¬ (t.isText ∧ u.isText) := by
  induction h with
  | nil => exact .nil
  | plain _ ih => exact isChain_consText ih
  | braced hb _ ih =>
    refine List.isChain_cons.2 ⟨fun u _ ht => ?_, ih⟩
    rw [Tag.isText_of_read hb] at ht
    nomatch ht.1

/-- **Between two tags stands one token for all the text there.** -/
theorem splitOnP_eq (h : Reads spans ts) :
    ts.splitOnP isTag =
      (spans.splitOnP Span.isBraced).map fun run => textTokens (run.flatMap plainOf) := by
  induction h with
  | nil => rfl
  | @plain text spans ts _ ih =>
    have hspan : (Span.plain text :: spans).splitOnP Span.isBraced =
        (spans.splitOnP Span.isBraced).modifyHead (.plain text :: ·) :=
      List.splitOnP_cons_eq_if_modifyHead _ _
    rw [splitOnP_consText, ih, hspan]
    cases spans.splitOnP Span.isBraced with
    | nil => rfl
    | cons run runs =>
      rw [List.map_cons, List.modifyHead_cons, List.modifyHead_cons, List.map_cons,
        List.flatMap_cons, ← textTokens_append]
      rfl
  | @braced body spans _ _ hb _ ih =>
    have hspan : (Span.braced body :: spans).splitOnP Span.isBraced =
        [] :: spans.splitOnP Span.isBraced := List.splitOnP_cons_eq_if_modifyHead _ _
    rw [splitOnP_tag_cons (Tag.isText_of_read hb), ih, hspan]
    rfl

/-- The texts of the tokens are the plain spans. -/
theorem join_contentOf (h : Reads spans ts) :
    String.join (ts.map contentOf) = String.ofList (spans.flatMap plainOf) := by
  induction h with
  | nil => rfl
  | plain _ ih =>
    rw [join_contentOf_consText, ih, List.flatMap_cons, String.ofList_append]
    rfl
  | @braced body spans t ts hb _ ih =>
    have ht : contentOf t = "" := by
      obtain ⟨_, -, rfl⟩ | ⟨_, -, rfl⟩ := Tag.read_cases hb <;> rfl
    rw [List.map_cons, String.join_cons, ht, ih, String.empty_append]
    rfl

end Reads

/-! ## Faults -/

def fault? {α : Type} : Except InvalidArgument α → Option InvalidArgument
  | .ok _ => none
  | .error e => some e

theorem fault?_eq_some_iff {α : Type} {r : Except InvalidArgument α} {e : InvalidArgument} :
    fault? r = some e ↔ r = .error e := by
  cases r <;> simp [fault?]

theorem fault?_eq_none_iff {α : Type} {r : Except InvalidArgument α} :
    fault? r = none ↔ ∃ x, r = .ok x := by
  cases r <;> simp [fault?]

/-- **The fault of a text is that of its first faulty tag.** -/
theorem fault?_ofSpans (spans : List Span) :
    fault? (ofSpans spans) =
      (spans.filterMap Span.body?).findSome? fun body => fault? (Tag.read body) := by
  induction spans with
  | nil => rfl
  | cons a spans ih =>
    cases a with
    | plain text =>
      rw [List.filterMap_cons_none rfl, ← ih, ofSpans]
      cases ofSpans spans <;> rfl
    | braced body =>
      have hbodies : (Span.braced body :: spans).filterMap Span.body? =
          body :: spans.filterMap Span.body? := rfl
      rw [hbodies, List.findSome?_cons, ofSpans, ← ih]
      cases Tag.read body with
      | ok t => cases ofSpans spans <;> rfl
      | error e => rfl

theorem parse_ok_iff (s : String) :
    (∃ ts, parse s = .ok ts) ↔ ∀ body ∈ tagBodies s, ∃ t, Tag.read body = .ok t := by
  rw [← fault?_eq_none_iff, parse, fault?_ofSpans, List.findSome?_eq_none_iff]
  exact forall₂_congr fun body _ => fault?_eq_none_iff

theorem parse_error_iff (s : String) (e : InvalidArgument) :
    parse s = .error e ↔
      ∃ before body after, tagBodies s = before ++ body :: after ∧
        (∀ b ∈ before, ∃ t, Tag.read b = .ok t) ∧ Tag.read body = .error e := by
  rw [← fault?_eq_some_iff, parse, fault?_ofSpans, List.findSome?_eq_some_iff]
  constructor
  · rintro ⟨before, body, after, hs, he, hbefore⟩
    exact ⟨before, body, after, hs, fun b hb => fault?_eq_none_iff.1 (hbefore b hb),
      fault?_eq_some_iff.1 he⟩
  · rintro ⟨before, body, after, hs, hbefore, he⟩
    exact ⟨before, body, after, hs, fault?_eq_some_iff.2 he, fun b hb =>
      fault?_eq_none_iff.2 (hbefore b hb)⟩

/-! ## Other tags -/

namespace Span

variable {K L : List Span}

theorem getElem?_map_text?_iff {i : Nat} {t : List Char} :
    (L.map text?)[i]? = some (some t) ↔ L[i]? = some (plain t) := by
  rw [List.getElem?_map, Option.map_eq_some_iff]
  constructor
  · rintro ⟨a, ha, ht⟩
    cases a with
    | plain u => exact Option.some.inj ht ▸ ha
    | braced b => cases ht
  · intro h
    exact ⟨_, h, rfl⟩

/-- Lists that differ in the bodies of tags only have their plain spans in the same places. -/
theorem getElem?_plain_iff (h : L.map text? = K.map text?) {i : Nat} {t : List Char} :
    L[i]? = some (plain t) ↔ K[i]? = some (plain t) := by
  rw [← getElem?_map_text?_iff, ← getElem?_map_text?_iff, h]

/-- Other bodies in the tags of a well-formed list leave it well formed, if no brace ends them. -/
theorem WellFormed.of_map_text? (h : WellFormed K) (hL : L.map text? = K.map text?)
    (hb : ∀ b, braced b ∈ L → '}' ∉ b) : WellFormed L where
  body := hb
  nonempty t ht := by
    obtain ⟨i, hi⟩ := List.mem_iff_getElem?.1 ht
    exact h.nonempty t (List.mem_of_getElem? ((getElem?_plain_iff hL).1 hi))
  unclosed i t ht ho := by
    have hlen : L.length = K.length := by simpa using congrArg List.length hL
    rw [hlen]
    exact h.unclosed i t ((getElem?_plain_iff hL).1 ht) ho
  follows i t u ht hu :=
    h.follows i t u ((getElem?_plain_iff hL).1 ht) ((getElem?_plain_iff hL).1 hu)

theorem flatMap_plainOf (L : List Span) :
    L.flatMap plainOf = (L.map text?).flatMap fun t => t.getD [] := by
  rw [List.flatMap_map]
  refine List.flatMap_congr fun a _ => ?_
  cases a <;> rfl

end Span

/-- What stands in the tags does not matter to the text without them. -/
theorem strip_of_map_text? {s : String} {L : List Span}
    (hL : L.map Span.text? = (Span.split s.toList).map Span.text?)
    (hb : ∀ b, Span.braced b ∈ L → '}' ∉ b) :
    strip (String.ofList (L.flatMap Span.spell)) = strip s := by
  have hwell : Span.WellFormed L := (Span.wellFormed_split s.toList).of_map_text? hL hb
  rw [strip, strip, String.toList_ofList, hwell.split_flatMap_spell, Span.flatMap_plainOf,
    Span.flatMap_plainOf, hL]

/-! ## The two views -/

/-- **Reading a format text and taking its tags out are two views of the same spans.** The text can
be read exactly when each of its tags can, and else the first faulty tag is its fault, whatever
follows. The tags that are read are those of the text in their order; all text between two of them
makes one token, and none if it is empty; and the texts of the tokens make up the text without its
tags, which remains the same whatever else is written into the tags. -/
theorem parse_strip_law (s : String) :
    ((∃ ts, parse s = .ok ts) ↔ ∀ body ∈ tagBodies s, ∃ t, Tag.read body = .ok t) ∧
      (∀ e, parse s = .error e ↔
        ∃ before body after, tagBodies s = before ++ body :: after ∧
          (∀ b ∈ before, ∃ t, Tag.read b = .ok t) ∧ Tag.read body = .error e) ∧
      (∀ ts, parse s = .ok ts →
        (ts.filter isTag).map .ok = (tagBodies s).map Tag.read ∧
          (∀ c, Token.text c ∈ ts → c ≠ "") ∧
          ts.IsChain (fun t u => ¬ (t.isText ∧ u.isText)) ∧
          ts.splitOnP isTag = (textRuns s).map textTokens ∧
          String.join (ts.map contentOf) = strip s) ∧
      ∀ L : List Span, L.map Span.text? = (Span.split s.toList).map Span.text? →
        (∀ b, Span.braced b ∈ L → '}' ∉ b) →
        strip (String.ofList (L.flatMap Span.spell)) = strip s := by
  refine ⟨parse_ok_iff s, parse_error_iff s, fun ts h => ?_, fun L => strip_of_map_text?⟩
  have hreads : Reads (Span.split s.toList) ts := reads_iff.2 h
  refine ⟨hreads.map_filter_isTag, hreads.ne_empty, hreads.isChain, ?_, hreads.join_contentOf⟩
  rw [hreads.splitOnP_eq, textRuns, List.map_map]
  rfl

end GlyphEffects.Markup
