import GlyphEffects.Proofs.Agreement
import GlyphEffects.Proofs.Boundaries
import GlyphEffects.Proofs.Composition
import GlyphEffects.Proofs.Padding
import GlyphEffects.Proofs.Parts
import GlyphEffects.Proofs.Projection

/-! # Text between a tag and its closing tag

Whatever opens an effect closes it with a slash before it: the name of a closing tag is found where
the name of the opening tag is, behind all blanks. So a text can be put between a tag and the tag
with a slash. The effect is active all along the text and in nobody's way; at the end it is off, and
the same clusters were shown as without it.

* `Tag.read_slash`: **an opening tag with a slash before it closes what it opens.**
* `Markup.enclose` and `Markup.parse_enclose`: a text between a tag and its closing tag.
* `Replay.Beside`: a replay has come as far as another one, with one more effect active. `Beside.step`
  and `Beside.run`: tokens that leave that effect alone keep it so.
* `Setup.renderInto_enclosed`: **what is enclosed is shown, and with it no other clusters.**
-/

namespace GlyphEffects

open GlyphEffects.Markup GlyphEffects.Text GlyphEffects.History

/-! ## Tags -/

theorem Text.trimEnd_cons {c : Char} (h : isBlank c = false) (s : List Char) :
    trimEnd (c :: s) = c :: trimEnd s := by
  have hone : [c].dropWhile isBlank = [c] := trimStart_eq_self (s := [c]) (by simpa using h)
  rw [trimEnd, trimEnd, List.reverse_cons, List.dropWhile_append, hone]
  split
  next hempty => rw [List.isEmpty_iff.1 hempty]; rfl
  next => rw [List.reverse_append]; rfl

namespace Markup.Tag

/-- The name is the same whichever end the blanks are taken off first. -/
theorem nameOf_trimStart_trimEnd (s : List Char) :
    nameOf (trimStart (trimEnd s)) = nameOf (trim s) := by
  obtain ⟨blanks, hs, hblanks⟩ := exists_eq_trimEnd_append s
  obtain ⟨more, ht, hmore⟩ := exists_eq_trimEnd_append (trimStart s)
  have htrim : nameOf (trim s) = nameOf (trimStart s) := by
    conv_rhs => rw [ht, nameOf_append_of_isBlank hmore]
    rfl
  rw [htrim]
  by_cases hnil : trimStart (trimEnd s) = []
  · have hall : ∀ c ∈ trimEnd s, isBlank c := List.dropWhile_eq_nil_iff.1 hnil
    have hstart : trimStart s = [] := by
      rw [hs, trimStart_append_of_isBlank hall]
      exact List.dropWhile_eq_nil_iff.2 hblanks
    rw [hnil, hstart]
  · conv_rhs => rw [hs, trimStart_append hnil, nameOf_append_of_isBlank hblanks]

/-- **An opening tag with a slash before it closes what it opens.** -/
theorem read_slash {body : List Char} {name : String} {args : Arguments}
    (h : read body = .ok (.opening name args)) : read ('/' :: body) = .ok (.closing name) := by
  have hname : name = nameOf (trim body) := by
    obtain ⟨rest, -, ht⟩ | ⟨args', -, ht⟩ := read_cases h
    · cases ht
    · exact (Token.opening.inj ht).1
  have hslash : isBlank '/' = false := by decide
  have htrim : trim ('/' :: body) = '/' :: trimEnd body := by
    have hstart : trimStart ('/' :: body) = '/' :: body := by
      rw [trimStart, List.dropWhile_cons, hslash, if_neg Bool.false_ne_true]
    rw [trim, hstart, trimEnd_cons hslash]
  rw [read, htrim, hname, ← nameOf_trimStart_trimEnd]
  rfl

end Markup.Tag

/-! ## Texts -/

namespace Markup

/-- A tag as it is written. -/
def brace (body : String) : String := "\x7b" ++ body ++ "\x7d"

/-- A text between a tag and the tag with a slash. -/
def enclose (body format : String) : String := brace body ++ (format ++ brace ("/" ++ body))

theorem toList_brace (body : String) : (brace body).toList = (Span.braced body.toList).spell := by
  rw [brace, String.toList_append, String.toList_append]
  rfl

theorem split_brace {body : String} (h : '}' ∉ body.toList) :
    Span.split (brace body).toList = [.braced body.toList] := by
  have hsplit := Span.split_braced_append h []
  rw [List.append_nil, Span.split] at hsplit
  rw [toList_brace, hsplit]

theorem endsClosed_brace {body : String} (h : '}' ∉ body.toList) :
    Span.EndsClosed (Span.split (brace body).toList) := by
  rw [split_brace h]
  intro t ht
  cases ht

theorem parse_brace {body : String} {t : Token} (h : '}' ∉ body.toList)
    (ht : Tag.read body.toList = .ok t) : parse (brace body) = .ok [t] := by
  rw [parse, split_brace h, ofSpans, ht]
  rfl

/-- What stands between a tag and its closing tag is read as by itself. -/
theorem parse_enclose {body format : String} {name : String} {args : Arguments} {ts : List Token}
    (h : Tag.read body.toList = .ok (.opening name args)) (hbody : '}' ∉ body.toList)
    (hclosed : Span.EndsClosed (Span.split format.toList)) (hts : parse format = .ok ts) :
    parse (enclose body format) = .ok (.opening name args :: (ts ++ [.closing name])) := by
  have hslash : ("/" ++ body).toList = '/' :: body.toList := String.toList_append
  have hclose : parse (brace ("/" ++ body)) = .ok [.closing name] := by
    refine parse_brace ?_ ?_
    · rw [hslash, List.mem_cons, not_or]
      exact ⟨by decide, hbody⟩
    · rw [hslash]
      exact Tag.read_slash h
  have hrest : parse (format ++ brace ("/" ++ body)) = .ok (ts ++ [.closing name]) := by
    rw [parse_append hclosed, hts, hclose]
    refine congrArg Except.ok (joinTokens_apart fun t u _ hu => ?_)
    obtain rfl := Option.some.inj hu
    exact fun htext => Bool.false_ne_true htext.2
  rw [enclose, parse_append (endsClosed_brace hbody), parse_brace hbody h, hrest]
  exact congrArg Except.ok (joinTokens_tag_cons rfl)

end Markup

/-! ## One more effect -/

namespace Replay

/-- A replay has come as far as another one with one more effect active, that of the name. -/
structure Beside (n : String) (alone all : Replay) : Prop where
  others : all.scope.keep (· != n) = alone.scope
  active : all.scope.contains n

namespace Beside

variable {s : Setup} {n : String} {alone all next : Replay} {t : Token} {ts : List Token}

/-- The tag of an effect is passed at the start. -/
theorem start (hn : s.registry.contains n) (args : Arguments) :
    ∃ all, Replay.start.step s (.opening n args) = .ok all ∧ Beside n Replay.start all := by
  obtain ⟨effect, he⟩ := Option.isSome_iff_exists.1 hn
  have hname : (effect.name != n) = false := by simp [Registry.name_of_get? he]
  refine ⟨_, step_of_opening he args Replay.start, ?_, ?_⟩
  · exact Scope.keep_activate_of_neg (q := (· != n)) hname .empty _
  · rw [Scope.contains_iff_mem_names, Scope.names_activate, Registry.name_of_get? he]
    exact List.mem_singleton_self n

/-- A token that has nothing to do with the effect is passed beside it too. -/
theorem step (h : Beside n alone all) (ht : t.name? ≠ some n) (hs : alone.step s t = .ok next) :
    ∃ after, all.step s t = .ok after ∧ Beside n next after := by
  obtain ⟨content, rfl, rfl⟩ | ⟨name, arguments, effect, rfl, he, rfl⟩ | ⟨name, rfl, hc, rfl⟩ :=
    step_cases hs
  · exact ⟨_, rfl, h.others, h.active⟩
  · have hne : name ≠ n := fun e => ht (congrArg some e)
    have hname : (effect.name != n) = true := by simpa [Registry.name_of_get? he] using hne
    refine ⟨_, step_of_opening he arguments all, ?_, ?_⟩
    · exact (Scope.keep_activate_of_pos (q := (· != n)) hname _ _).trans
        (congrArg (Scope.activate · effect _) h.others)
    · have hactive := Scope.contains_iff_mem_names.1 h.active
      rw [Scope.contains_iff_mem_names, Scope.names_activate]
      split
      · exact hactive
      · exact List.mem_append_left _ hactive
  · have hne : name ≠ n := fun e => ht (congrArg some e)
    have hname : (name != n) = true := by simpa using hne
    have hopen : all.scope.contains name := by
      rw [← Scope.contains_keep (q := (· != n)) hname, h.others]
      exact hc
    refine ⟨_, step_of_closing hopen, ?_, ?_⟩
    · exact (Scope.keep_deactivate_of_pos (q := (· != n)) hname _).trans
        (congrArg (Scope.deactivate · name) h.others)
    · rw [Scope.contains_iff_mem_names, Scope.names_deactivate, List.mem_erase_of_ne hne.symm]
      exact Scope.contains_iff_mem_names.1 h.active

theorem run (hts : ∀ t ∈ ts, t.name? ≠ some n) (h : Beside n alone all)
    (hr : alone.run s ts = (next, none)) :
    ∃ after, all.run s ts = (after, none) ∧ Beside n next after := by
  induction ts generalizing alone all with
  | nil =>
    obtain rfl := congrArg Prod.fst hr
    exact ⟨all, rfl, h⟩
  | cons t ts ih =>
    obtain ⟨between, hs, hr⟩ := run_cons_ok hr
    obtain ⟨after, hafter, hbetween⟩ := h.step (hts t List.mem_cons_self) hs
    obtain ⟨last, hlast, hnext⟩ := ih (fun u hu => hts u (List.mem_cons_of_mem t hu)) hbetween hr
    rw [Replay.run, hafter]
    exact ⟨last, hlast, hnext⟩

end Beside

variable {s : Setup} {n : String} {ts : List Token} {r : Replay}

/-- What can be shown can be shown between the tags of another effect. -/
theorem run_enclosed (hn : s.registry.contains n) (hts : ∀ t ∈ ts, t.name? ≠ some n)
    (hr : Replay.start.run s ts = (r, none)) (args : Arguments) :
    ∃ last, Replay.start.run s (.opening n args :: (ts ++ [.closing n])) = (last, none) := by
  obtain ⟨first, hfirst, hbeside⟩ := Beside.start hn args
  obtain ⟨all, hall, hbeside⟩ := hbeside.run hts hr
  refine ⟨{ all with scope := all.scope.deactivate n, log := all.log ++ [.closed n] }, ?_⟩
  rw [run, hfirst]
  show first.run s (ts ++ [.closing n]) = _
  rw [run_append, hall]
  show all.run s [.closing n] = _
  rw [run, step_of_closing hbeside.active]
  rfl

/-- After a closing tag its effect is off. -/
theorem not_contains_of_run_closing (ts : List Token)
    (h : Replay.start.run s (ts ++ [.closing n]) = (r, none)) :
    ¬ r.scope.contains n := by
  have hr := reached_of_run_eq_none h
  have hlast : (ts ++ [Token.closing n])[ts.length]? = some (.closing n) :=
    List.getElem?_concat_length
  rw [List.length_append, List.length_singleton] at hr
  rw [hr.contains_iff, activeBefore_succ]
  rintro (⟨-, hopen⟩ | ⟨args, hopens⟩)
  · exact hopen hlast
  · rw [hlast] at hopens
    cases hopens

end Replay

/-! ## What is shown -/

namespace Setup

theorem run_enclosed {σ : Type} [Sink σ] {s : Setup} {n : String} {ts : List Token} {x : σ}
    {shown : Rendering} (hn : s.registry.contains n) (hts : ∀ t ∈ ts, t.name? ≠ some n)
    (h : (s.renderInto ts x).1 = .ok shown) (args : Arguments) :
    ∃ st, (Stream.start x).run s (.opening n args :: (ts ++ [.closing n])) = (st, none) ∧
      ¬ st.scope.contains n ∧
      s.renderInto (.opening n args :: (ts ++ [.closing n])) x = (.ok st.shown, st.sink) ∧
      (st.shown.glyphs.map fun g => g.cluster) = shown.glyphs.map fun g => g.cluster := by
  obtain ⟨r, hr, -⟩ := renderInto_ok_iff_run.1 h
  obtain ⟨last, hlast⟩ := Replay.run_enclosed hn hts hr args
  have hrun : (Stream.start x).run s (.opening n args :: (ts ++ [.closing n])) =
      (last.streamed s x, none) := by
    have hstreamed := Stream.run_streamed s x Replay.start (.opening n args :: (ts ++ [.closing n]))
    rwa [hlast] at hstreamed
  have hrender : s.renderInto (.opening n args :: (ts ++ [.closing n])) x =
      (.ok (last.streamed s x).shown, (last.streamed s x).sink) := by rw [renderInto, hrun]
  refine ⟨last.streamed s x, hrun, ?_, hrender, ?_⟩
  · exact Replay.not_contains_of_run_closing (.opening n args :: ts) hlast
  · have htexts : (Token.opening n args :: (ts ++ [.closing n])).filterMap Token.text? =
        ts.filterMap Token.text? := by
      rw [List.filterMap_cons_none rfl, List.filterMap_append]
      exact List.append_nil _
    rw [map_cluster_of_renderInto_ok (congrArg Prod.fst hrender), htexts,
      map_cluster_of_renderInto_ok h]

/-- **What stands between a tag and its closing tag is shown, and with it no other clusters.** Let a
tag open an effect. Then the tag with a slash before it closes the effect. And let a text be put
between the two that can be shown, leaves no brace open and has no tags of the effect itself. Then
all of it can be shown, whatever it is shown with as long as the effect is known; the effect is off
at the end, and the clusters are those of the text. -/
theorem renderInto_enclosed {body name : String} {args : Arguments}
    (h : Tag.read body.toList = .ok (.opening name args)) :
    Tag.read ('/' :: body.toList) = .ok (.closing name) ∧
      ('}' ∉ body.toList → ∀ format ts, Span.EndsClosed (Span.split format.toList) →
        parse format = .ok ts → (∀ t ∈ ts, t.name? ≠ some name) →
        (∀ (s : Setup) (σ : Type) [Sink σ] (x : σ) shown, s.registry.contains name →
          (s.renderInto ts x).1 = .ok shown →
            ∃ whole st, parse (enclose body format) = .ok whole ∧
              (Stream.start x).run s whole = (st, none) ∧ ¬ st.scope.contains name ∧
              s.renderInto whole x = (.ok st.shown, st.sink) ∧
              (st.shown.glyphs.map fun g => g.cluster) = shown.glyphs.map fun g => g.cluster) ∧
          ∀ (g : Registry) gs, g.contains name → Snapshot.render format g = .ok gs →
            ∃ whole, Snapshot.render (enclose body format) g = .ok whole ∧
              (whole.map fun g => g.cluster) = gs.map fun g => g.cluster) := by
  refine ⟨Tag.read_slash h, fun hbody format ts hclosed hparse hts => ?_⟩
  have hwhole := parse_enclose h hbody hclosed hparse
  constructor
  · intro s σ _ x shown hn hshown
    obtain ⟨st, hst⟩ := run_enclosed hn hts hshown args
    exact ⟨_, st, hwhole, hst⟩
  · intro g gs hn hgs
    rw [Snapshot.render_of_parse_ok hparse] at hgs
    obtain ⟨shown, hshown, rfl⟩ := Except.map_eq_ok_iff.1 hgs
    obtain ⟨st, -, -, hst, hclusters⟩ := run_enclosed (s := Snapshot.setup g) hn hts hshown args
    refine ⟨st.shown.glyphs, ?_, hclusters⟩
    rw [Snapshot.render_of_parse_ok hwhole, hst]
    rfl

/-- A tag with blanks before its name and more behind it, around a text in which another effect is
left on and a closing brace stands alone. -/
theorem renderInto_enclosed_left_on :
    Tag.read "\t scale2 ,fast".toList = .ok (.openingWith "scale" []) ∧
      Tag.read "/\t scale2 ,fast".toList = .ok (.closing "scale") ∧
      ∃ gs whole, Snapshot.render "a\x7bwave\x7db\x7d日" .builtin = .ok gs ∧
        Snapshot.render (enclose "\t scale2 ,fast" "a\x7bwave\x7db\x7d日") .builtin = .ok whole ∧
        (whole.map fun g => g.cluster) = gs.map fun g => g.cluster := by
  have hread : Tag.read "\t scale2 ,fast".toList = .ok (.openingWith "scale" []) := by cbv
  have hparse : parse "a\x7bwave\x7db\x7d日" =
      .ok [.text "a", .openingWith "wave" [], .text "b\x7d日"] := by cbv
  have hnames : ∀ t ∈ [Token.text "a", .openingWith "wave" [], .text "b\x7d日"],
      t.name? ≠ some "scale" := by decide
  have hclosed : Span.EndsClosed (Span.split "a\x7bwave\x7db\x7d日".toList) := by
    have hspans : Span.split "a\x7bwave\x7db\x7d日".toList =
        [.plain ['a'], .braced ['w', 'a', 'v', 'e'], .plain ['b', '}', '日']] := by cbv
    rw [hspans]
    rintro t ⟨rfl⟩
    decide
  obtain ⟨hslash, henclosed⟩ := renderInto_enclosed hread
  obtain ⟨-, hsnapshot⟩ := henclosed (by decide) _ _ hclosed hparse hnames
  have hshown : ((Snapshot.setup .builtin).renderInto
      [.text "a", .openingWith "wave" [], .text "b\x7d日"] Batch.empty).1 = .ok _ := rfl
  have hrender := (Snapshot.render_of_parse_ok (g := .builtin) hparse).trans
    (congrArg (Except.map Rendering.glyphs) hshown)
  obtain ⟨whole, hwhole, hclusters⟩ := hsnapshot .builtin _ (by decide) hrender
  exact ⟨hread, hslash, _, whole, hrender, hwhole, hclusters⟩

end Setup

end GlyphEffects
