import Mathlib.Data.List.TakeWhile
import GlyphEffects.Proofs.Reading
import GlyphEffects.Proofs.Segments
import GlyphEffects.Stream

/-! # The tokens that are read

Tokens may be made by hand in any form, but those that are read off a format text are well formed:
names are letters, keys are words, values are finite, and a brace opens in a text only where it is
never closed. Their arguments carry the names of their tags, so nothing has to be renamed when they
are shown; and tokens whose arguments do not are shown as if they did.

* `Token.WellFormed` and `TokensWellFormed`: what one token and all of them are like.
* `Tag.arguments_wellFormed`: the arguments that are read are those of a well-formed token.
* `Reads.unclosed`: where a brace may stand in a text.
* `Setup.renderInto_map_rekeyed`: arguments under another name are shown as under that of the tag.
* `parse_wellFormed_law`: **what is read is well formed, and its arguments need no new name.**
-/

namespace GlyphEffects.Markup

open GlyphEffects.Text GlyphEffects.Number

/-! ## Well-formed tokens -/

def IsLetters (s : String) : Prop := ∀ c ∈ s.toList, isLetter c

def IsWord (s : String) : Prop := s ≠ "" ∧ ∀ c ∈ s.toList, isWordChar c

/-- The keys are words, and the numbers are finite. -/
def Arguments.WellFormed (a : Arguments) : Prop := ∀ p ∈ a.toList, IsWord p.1 ∧ p.2.isFinite

/-- The name of a tag consists of letters, and the arguments of an opening tag carry it. -/
def Token.WellFormed : Token → Prop
  | text _ => True
  | opening name a => a.name = name ∧ IsLetters name ∧ a.WellFormed
  | closing name => IsLetters name

/-- Each token is well formed, and only the last one may be a text with an opening brace in it,
which is then never closed. -/
structure TokensWellFormed (ts : List Token) : Prop where
  token : ∀ t ∈ ts, t.WellFormed
  unclosed : ∀ (i : Nat) content, ts[i]? = some (.text content) → '{' ∈ content.toList →
    i + 1 = ts.length ∧ '}' ∉ onward '{' content.toList

/-- The token whose arguments are given the name of the tag. -/
def Token.rekeyed : Token → Token
  | opening name a => opening name (a.rename name)
  | t => t

/-! ## Arguments -/

theorem Arguments.WellFormed.insert {a : Arguments} (h : a.WellFormed) {key : String} {x : Float}
    (hkey : IsWord key) (hx : x.isFinite) : (a.insert key x).WellFormed := by
  intro p hp
  rcases Table.mem_put hp with rfl | hp
  · exact ⟨hkey, hx⟩
  · exact h p hp

theorem Arguments.WellFormed.insertMany {a : Arguments} (h : a.WellFormed)
    {ps : List (String × Float)} (hps : ∀ p ∈ ps, IsWord p.1 ∧ p.2.isFinite) :
    (a.insertMany ps).WellFormed := by
  induction ps generalizing a with
  | nil => exact h
  | cons p ps ih =>
    obtain ⟨hkey, hx⟩ := hps p List.mem_cons_self
    exact ih (h.insert hkey hx) fun q hq => hps q (List.mem_cons_of_mem p hq)

namespace Tag

theorem isLetters_nameOf (s : List Char) : IsLetters (nameOf s) := by
  intro c hc
  rw [nameOf, String.toList_ofList] at hc
  exact List.mem_takeWhile_imp hc

theorem isWord_of_pair? {segment : List Char} {p : List Char × List Char}
    (h : pair? segment = some p) : IsWord (String.ofList p.1) := by
  obtain ⟨_, ⟨_, _, _, _, -, -, hkey, hne, -, -⟩, -⟩ := pair?_eq_some_iff.1 h
  refine ⟨ofList_ne_empty hne, fun c hc => ?_⟩
  rw [String.toList_ofList] at hc
  exact hkey.all c hc

theorem arguments_wellFormed {s : List Char} {a : Arguments} (h : arguments s = .ok a) :
    a.WellFormed := by
  have hnamed : (Arguments.named (nameOf s)).WellFormed := fun p hp =>
    absurd hp List.not_mem_nil
  rw [eq_insertMany_of_arguments h]
  refine hnamed.insertMany fun q hq => ?_
  obtain ⟨p, hp, hnumber⟩ := List.mem_filterMap.1 hq
  obtain ⟨segment, -, hs⟩ := List.mem_filterMap.1 hp
  obtain ⟨x, hx, rfl⟩ := Option.map_eq_some_iff.1 hnumber
  exact ⟨isWord_of_pair? hs, isFinite_of_ofLiteral? hx⟩

theorem wellFormed_of_read {body : List Char} {t : Token} (h : read body = .ok t) :
    t.WellFormed := by
  obtain ⟨rest, -, rfl⟩ | ⟨a, ha, rfl⟩ := read_cases h
  · exact isLetters_nameOf _
  · exact ⟨name_arguments ha, isLetters_nameOf _, arguments_wellFormed ha⟩

end Tag

/-! ## Spans -/

namespace Reads

variable {spans : List Span} {ts : List Token}

theorem token_wellFormed (h : Reads spans ts) : ∀ t ∈ ts, t.WellFormed := by
  induction h with
  | nil => exact fun t ht => nomatch ht
  | plain _ ih =>
    intro t ht
    rcases mem_consText ht with ⟨content, rfl⟩ | ht
    · trivial
    · exact ih t ht
  | braced hb _ ih =>
    intro t ht
    rcases List.mem_cons.1 ht with rfl | ht
    · exact Tag.wellFormed_of_read hb
    · exact ih t ht

theorem unclosed (h : Reads spans ts) (hw : Span.WellFormed spans) :
    ∀ (i : Nat) content, ts[i]? = some (.text content) → '{' ∈ content.toList →
      i + 1 = ts.length ∧ '}' ∉ onward '{' content.toList := by
  induction h with
  | nil =>
    intro i content ht
    cases ht
  | @plain text spans ts h ih =>
    obtain ⟨⟨hne, hopen, -⟩, hrest⟩ := Span.wellFormed_cons_iff.1 hw
    have ih := ih hrest
    fun_cases consText text ts with
    | case1 => exact ih
    | case2 _ content rest =>
      -- what joins the text after it is no last span, so no brace opens in it
      have hno : '{' ∉ text := by
        intro ho
        obtain ⟨rfl, -⟩ := hopen ho
        cases h
      intro i whole ht ho
      cases i with
      | zero =>
        obtain rfl := Token.text.inj (Option.some.inj ht)
        rw [String.toList_append, String.toList_ofList] at ho ⊢
        rw [onward_append_of_not_mem hno]
        exact ih 0 content rfl ((List.mem_append.1 ho).resolve_left hno)
      | succ i => exact ih (i + 1) whole ht ho
    | case3 =>
      intro i content ht ho
      cases i with
      | zero =>
        obtain rfl := Token.text.inj (Option.some.inj ht)
        rw [String.toList_ofList] at ho ⊢
        obtain ⟨rfl, -, hclose⟩ := hopen ho
        obtain rfl : ts = [] := by cases h; rfl
        exact ⟨rfl, fun hm => hclose (mem_of_mem_onward hm)⟩
      | succ i =>
        obtain ⟨hi, hclose⟩ := ih i content ht ho
        exact ⟨by rw [List.length_cons, hi], hclose⟩
  | @braced body spans t ts hb _ ih =>
    intro i content ht ho
    cases i with
    | zero =>
      obtain rfl := Option.some.inj ht
      cases Tag.isText_of_read hb
    | succ i =>
      obtain ⟨hi, hclose⟩ := ih hw.of_cons i content ht ho
      exact ⟨by rw [List.length_cons, hi], hclose⟩

end Reads

/-! ## Arguments under another name -/

theorem Token.WellFormed.rekeyed_eq {t : Token} (h : t.WellFormed) : t.rekeyed = t := by
  cases t with
  | text content => rfl
  | opening name a =>
    obtain ⟨rfl, -⟩ := h
    rfl
  | closing name => rfl

end GlyphEffects.Markup

namespace GlyphEffects

open GlyphEffects.Markup

variable {σ : Type} [Sink σ]

theorem Stream.step_rekeyed (s : Setup) (st : Stream σ) (t : Token) :
    st.step s t.rekeyed = st.step s t := by
  cases t with
  | text content => rfl
  | opening name a =>
    simp only [Token.rekeyed, step, Arguments.ownedBy_eq_rename, Arguments.rename_rename]
  | closing name => rfl

theorem Stream.run_map_rekeyed (s : Setup) (st : Stream σ) (ts : List Token) :
    st.run s (ts.map Token.rekeyed) = st.run s ts := by
  induction ts generalizing st with
  | nil => rfl
  | cons t ts ih =>
    rw [List.map_cons, run, run, step_rekeyed]
    cases st.step s t with
    | ok next => exact ih next
    | error e => rfl

theorem Setup.renderInto_map_rekeyed (s : Setup) (ts : List Token) (sink : σ) :
    s.renderInto (ts.map Token.rekeyed) sink = s.renderInto ts sink := by
  rw [renderInto, Stream.run_map_rekeyed, renderInto]

/-- **What is read is well formed.** The arguments that are read carry the names of their tags, so
that giving them these names changes nothing; and it changes nothing in the showing of any other
tokens either, whatever they are shown with. -/
theorem Markup.parse_wellFormed_law (s : String) :
    (∀ ts, parse s = .ok ts → TokensWellFormed ts ∧ ts.map Token.rekeyed = ts) ∧
      ∀ (setup : Setup) (ts : List Token) (σ : Type) [Sink σ] (sink : σ),
        setup.renderInto (ts.map Token.rekeyed) sink = setup.renderInto ts sink := by
  refine ⟨fun ts h => ?_, fun setup ts σ _ sink => setup.renderInto_map_rekeyed ts sink⟩
  have hreads : Reads (Span.split s.toList) ts := reads_iff.2 h
  refine ⟨⟨hreads.token_wellFormed, hreads.unclosed (Span.wellFormed_split _)⟩, ?_⟩
  calc ts.map Token.rekeyed = ts.map id :=
        List.map_congr_left fun t ht => (hreads.token_wellFormed t ht).rekeyed_eq
    _ = ts := List.map_id ts

end GlyphEffects
