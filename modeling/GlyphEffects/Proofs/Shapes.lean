import GlyphEffects.Proofs.Parts
import GlyphEffects.Proofs.Projection

/-! # Texts of one shape

A built-in effect is told which cluster it dresses, but it looks only at the place of the cluster in
its run and at the length of the run. So what a text says makes no difference to how it looks: texts
with the same tags around runs of the same lengths are dressed alike, glyph by glyph, in whatever
font they are set. The font has its say only in where the glyphs stand, and there by the widths of
the clusters alone.

* `Markup.Token.SameShape`: the same tag, or texts with equally many clusters.
* `Effect.transform_congr_place`: a built-in effect does the same wherever the place is the same.
* `Replay.map_appearance_dress`: how a run of text is dressed depends on its length alone.
* `Replay.Alike`: two replays have made pieces that look alike. `Alike.step` and `Alike.run`: tokens
  of one shape keep them alike, or stop them both with one error.
* `Setup.renderInto_sameShape`: **texts of one shape look alike.**
-/

namespace GlyphEffects

open GlyphEffects.Markup GlyphEffects.Text

/-- Tokens of one shape are the same tag, or texts with equally many clusters. -/
inductive Markup.Token.SameShape : Token → Token → Prop
  | text {content other : String} :
      (clusters content).length = (clusters other).length →
        SameShape (.text content) (.text other)
  | opening (name : String) (arguments : Arguments) :
      SameShape (.opening name arguments) (.opening name arguments)
  | closing (name : String) : SameShape (.closing name) (.closing name)

/-! ## Effects -/

/-- Two positions are the same place in runs of the same length, whatever stands there. -/
def Position.SamePlace (p q : Position) : Prop := p.index = q.index ∧ p.length = q.length

/-- **A built-in effect does not look at the cluster that it dresses.** -/
theorem Effect.transform_congr_place {e : Effect} (he : e ∈ Effect.builtins) {p q : Position}
    (h : p.SamePlace q) (args : Arguments) (a : Appearance) :
    e.transform args p a = e.transform args q a := by
  obtain ⟨cluster, index, length⟩ := p
  obtain ⟨other, _, _⟩ := q
  obtain ⟨rfl, rfl⟩ := h
  simp only [Effect.builtins, List.mem_cons, List.not_mem_nil, or_false] at he
  rcases he with rfl | rfl | rfl | rfl | rfl | rfl | rfl | rfl | rfl <;> rfl

theorem Scope.apply_congr_place {s : Scope} (hs : s.BuiltIn) {p q : Position}
    (h : p.SamePlace q) (look : Appearance) : s.apply p look = s.apply q look := by
  obtain ⟨as⟩ := s
  induction as generalizing look with
  | nil => rfl
  | cons a as ih =>
    have ha : a.effect ∈ Effect.builtins := hs a List.mem_cons_self
    have hrest : BuiltIn ⟨as⟩ := fun b hb => hs b (List.mem_cons_of_mem _ hb)
    have hfirst : a.apply p look = a.apply q look :=
      Effect.transform_congr_place ha h a.arguments look
    rw [Scope.apply, Scope.apply, List.foldl_cons, List.foldl_cons, hfirst]
    exact ih _ hrest

/-! ## Replays -/

namespace Replay

/-- How a run of text is dressed depends on its length, and on nothing else of it. -/
theorem map_appearance_dress {scope : Scope} (h : scope.BuiltIn) (base : Appearance)
    (content : String) :
    (dress base scope content).map Piece.appearance =
      (List.range' 1 (clusters content).length).map fun i =>
        scope.apply ⟨"", i, (clusters content).length⟩ base := by
  rw [dress, Position.ofRun, List.map_map, List.map_map, ← List.zipIdx_map_snd, List.map_map]
  refine List.map_congr_left fun c _ => ?_
  have hplace : Position.SamePlace ⟨c.1, c.2, (clusters content).length⟩
      ⟨"", c.2, (clusters content).length⟩ := ⟨rfl, rfl⟩
  exact Scope.apply_congr_place h hplace base

/-- Two replays are alike: the same effects are active in them, all of them built in, and they have
made equally many pieces, of which each looks like its counterpart. -/
structure Alike (r q : Replay) : Prop where
  scope : r.scope = q.scope
  builtIn : r.scope.BuiltIn
  looks : r.pieces.map Piece.appearance = q.pieces.map Piece.appearance

namespace Alike

variable {r q : Replay} {t u : Token} {ts us : List Token} {f g : Font} {base : Appearance}
  {v w : Bool}

theorem start : Alike Replay.start Replay.start :=
  ⟨rfl, fun _ ha => absurd ha List.not_mem_nil, rfl⟩

/-- Tokens of one shape succeed in both replays and keep them alike, or fail in both. -/
theorem step (h : Alike r q) (ht : t.SameShape u) :
    (∃ next after, r.step ⟨.builtin, f, base, v⟩ t = .ok next ∧
        q.step ⟨.builtin, g, base, w⟩ u = .ok after ∧ Alike next after) ∨
      ∃ e, r.step ⟨.builtin, f, base, v⟩ t = .error e ∧
        q.step ⟨.builtin, g, base, w⟩ u = .error e := by
  cases ht with
  | @text content other hlen =>
    refine .inl ⟨_, _, rfl, rfl, h.scope, h.builtIn, ?_⟩
    have hbuiltIn : q.scope.BuiltIn := h.scope ▸ h.builtIn
    rw [List.map_append, List.map_append, h.looks, map_appearance_dress h.builtIn,
      map_appearance_dress hbuiltIn, h.scope, hlen]
  | opening name arguments =>
    cases he : Registry.builtin.get? name with
    | none => exact .inr ⟨.unknownEffect name, by simp only [Replay.step, he], by
        simp only [Replay.step, he]⟩
    | some effect =>
      refine .inl ⟨_, _, step_of_opening he arguments r, step_of_opening he arguments q, ?_, ?_,
        h.looks⟩
      · exact congrArg (Scope.activate · effect _) h.scope
      · exact h.builtIn.activate (Registry.mem_builtins_of_get? he) _
  | closing name =>
    cases hc : r.scope.contains name with
    | true =>
      have hc' : q.scope.contains name := h.scope ▸ hc
      refine .inl ⟨_, _, step_of_closing hc, step_of_closing hc', ?_, h.builtIn.deactivate name,
        h.looks⟩
      exact congrArg (Scope.deactivate · name) h.scope
    | false =>
      have hc' : q.scope.contains name = false := h.scope ▸ hc
      exact .inr ⟨.unmatchedClose name, by simp [Replay.step, hc], by simp [Replay.step, hc']⟩

/-- Lists of tokens of one shape bring both replays to the same end. -/
theorem run (hts : List.Forall₂ Token.SameShape ts us) (h : Alike r q) :
    Alike (r.run ⟨.builtin, f, base, v⟩ ts).1 (q.run ⟨.builtin, g, base, w⟩ us).1 ∧
      (r.run ⟨.builtin, f, base, v⟩ ts).2 = (q.run ⟨.builtin, g, base, w⟩ us).2 := by
  induction hts generalizing r q with
  | nil => exact ⟨h, rfl⟩
  | cons ht _ ih =>
    obtain ⟨next, after, hr, hq, hnext⟩ | ⟨e, hr, hq⟩ := h.step ht
    · rw [Replay.run, Replay.run, hr, hq]
      exact ih hnext
    · rw [Replay.run, Replay.run, hr, hq]
      exact ⟨h, rfl⟩

end Alike

end Replay

/-! ## The line -/

/-- How far pieces move the cursor depends on the widths of their clusters and on how they look. -/
theorem Font.map_stride_congr {f g : Font} {ps qs : List Piece}
    (hwidth : (ps.map Piece.cluster).map f.width = (qs.map Piece.cluster).map g.width)
    (hlook : ps.map Piece.appearance = qs.map Piece.appearance) :
    ps.map f.stride = qs.map g.stride := by
  induction ps generalizing qs with
  | nil =>
    obtain rfl := List.map_eq_nil_iff.1 hlook.symm
    rfl
  | cons p ps ih =>
    cases qs with
    | nil => cases hlook
    | cons q qs =>
      obtain ⟨hw, hws⟩ := List.cons.inj hwidth
      obtain ⟨hl, hls⟩ := List.cons.inj hlook
      have hstride : f.stride p = g.stride q := by rw [Font.stride, Font.stride, hw, hl]
      rw [List.map_cons, List.map_cons, hstride, ih hws hls]

theorem Replay.map_appearance_rendering (s : Setup) (r : Replay) :
    ((r.rendering s).glyphs.map fun g => g.appearance) = r.pieces.map Piece.appearance := by
  rw [← r.map_toPiece_rendering s, List.map_map]
  rfl

/-! ## Whole texts -/

namespace Setup

/-- **Texts of one shape look alike.** Let the same built-in effects be opened and closed around runs
of equally many clusters, which may say anything and be set in any fonts. Then both texts can be
shown, or both fail with the same error; and if they can, they have equally many glyphs, of which
each looks like its counterpart. The glyphs stand in the same places and the lines are equally long
if also their clusters are equally wide in their fonts. -/
theorem renderInto_sameShape {σ τ : Type} [Sink σ] [Sink τ] {ts us : List Token}
    (h : List.Forall₂ Token.SameShape ts us) (base : Appearance) (v w : Bool) (f g : Font)
    (x : σ) (y : τ) :
    (∀ e, (renderInto ⟨.builtin, f, base, v⟩ ts x).1 = .error e ↔
        (renderInto ⟨.builtin, g, base, w⟩ us y).1 = .error e) ∧
      ((∃ shown, (renderInto ⟨.builtin, f, base, v⟩ ts x).1 = .ok shown) ↔
        ∃ other, (renderInto ⟨.builtin, g, base, w⟩ us y).1 = .ok other) ∧
      ∀ shown other, (renderInto ⟨.builtin, f, base, v⟩ ts x).1 = .ok shown →
        (renderInto ⟨.builtin, g, base, w⟩ us y).1 = .ok other →
        shown.glyphs.length = other.glyphs.length ∧
          (∀ (k : Nat) one two, shown.glyphs[k]? = some one → other.glyphs[k]? = some two →
            one.appearance = two.appearance) ∧
          (((ts.filterMap Token.text?).flatMap clusters).map f.width =
              ((us.filterMap Token.text?).flatMap clusters).map g.width →
            shown.glyphs.map Glyph.cursor = other.glyphs.map Glyph.cursor ∧
              shown.width = other.width) := by
  have hone := renderInto_fst_eq ⟨.builtin, f, base, v⟩ ts x
  have htwo := renderInto_fst_eq ⟨.builtin, g, base, w⟩ us y
  have hruns : Replay.Alike (Replay.start.run ⟨.builtin, f, base, v⟩ ts).1
      (Replay.start.run ⟨.builtin, g, base, w⟩ us).1 ∧ _ := Replay.Alike.start.run h
  generalize Replay.start.run ⟨.builtin, f, base, v⟩ ts = first at hone hruns
  generalize Replay.start.run ⟨.builtin, g, base, w⟩ us = second at htwo hruns
  obtain ⟨r, error⟩ := first
  obtain ⟨q, _⟩ := second
  obtain ⟨hlike, rfl⟩ := hruns
  cases error with
  | some e =>
    rw [hone, htwo]
    exact ⟨fun _ => Iff.rfl, ⟨nofun, nofun⟩, nofun⟩
  | none =>
    have hlook : ((r.rendering ⟨.builtin, f, base, v⟩).glyphs.map fun g => g.appearance) =
        (q.rendering ⟨.builtin, g, base, w⟩).glyphs.map fun g => g.appearance := by
      rw [Replay.map_appearance_rendering, Replay.map_appearance_rendering, hlike.looks]
    have hclusters := map_cluster_of_renderInto_ok hone
    have hothers := map_cluster_of_renderInto_ok htwo
    rw [Replay.map_cluster_rendering] at hclusters hothers
    rw [hone, htwo]
    refine ⟨fun e => ⟨nofun, nofun⟩, ⟨fun _ => ⟨_, rfl⟩, fun _ => ⟨_, rfl⟩⟩, ?_⟩
    rintro _ _ ⟨rfl⟩ ⟨rfl⟩
    refine ⟨by simpa using congrArg List.length hlook, fun k one two h1 h2 => ?_, fun hwidth => ?_⟩
    · have hk := congrArg (fun as => as[k]?) hlook
      simpa [h1, h2] using hk
    · rw [← hclusters, ← hothers] at hwidth
      have hstride := Font.map_stride_congr hwidth hlike.looks
      exact ⟨Font.map_cursor_place_congr hstride 0, Font.advance_congr hstride 0⟩

/-- Tags that overlap, around two runs of text. -/
def overlappingRuns (one two : String) : List Token :=
  [.openingWith "shake" [("seed", 3)], .text one, .openingWith "rainbow" [], .closing "shake",
    .text two]

/-- Letters in a font of equal cells, and an ideograph, a letter with an accent and a flag in a font
that gives all of them the width of such a cell. -/
theorem renderInto_sameShape_foreign :
    List.Forall₂ Token.SameShape (overlappingRuns "ab" "c") (overlappingRuns "日e\u0301" "🇩🇪") ∧
      ∃ shown other,
        (renderInto ⟨.builtin, .monospace 8, .plain, true⟩ (overlappingRuns "ab" "c")
          Batch.empty).1 = .ok shown ∧
        (renderInto ⟨.builtin, .ofTable [] 8, .plain, false⟩ (overlappingRuns "日e\u0301" "🇩🇪")
          Batch.empty).1 = .ok other ∧
        shown.glyphs.length = other.glyphs.length ∧
        shown.glyphs.map Glyph.cursor = other.glyphs.map Glyph.cursor ∧
        shown.width = other.width := by
  have hshape : List.Forall₂ Token.SameShape (overlappingRuns "ab" "c")
      (overlappingRuns "日e\u0301" "🇩🇪") :=
    .cons (.opening _ _) <| .cons (.text (by decide +kernel)) <| .cons (.opening _ _) <|
      .cons (.closing _) <| .cons (.text (by decide +kernel)) .nil
  obtain ⟨-, hok, halike⟩ := renderInto_sameShape hshape .plain true false (.monospace 8)
    (.ofTable [] 8) Batch.empty Batch.empty
  have hone : (renderInto ⟨.builtin, .monospace 8, .plain, true⟩ (overlappingRuns "ab" "c")
      Batch.empty).1 = .ok _ := rfl
  obtain ⟨other, htwo⟩ := hok.1 ⟨_, hone⟩
  obtain ⟨hlength, -, hline⟩ := halike _ other hone htwo
  obtain ⟨hcursor, hwidth⟩ := hline (by decide +kernel)
  exact ⟨hshape, _, other, hone, htwo, hlength, hcursor, hwidth⟩

end Setup

end GlyphEffects
