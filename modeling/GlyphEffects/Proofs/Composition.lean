import GlyphEffects.Proofs.Reference

/-! # Texts shown one after the other

When all that a text opens is closed at its end, nothing of it reaches the text behind it but the
place where the cursor stands. So the two are shown together as the second one is shown by itself,
set on the line behind the first one; and the errors are those of the second one.

* `Replay.follow r q`: a replay that has come as far as `q` after all that was done in `r`.
* `Replay.step_follow` and `Replay.run_follow`: what was done before makes no difference to a step
  and to a run.
* `Font.Sets`: glyphs stand where pieces come to stand that are set from some place on.
* `Setup.renderInto_append_of_closed`: **a text behind closed tags is shown as by itself.**
-/

namespace GlyphEffects

open GlyphEffects.Markup GlyphEffects.History

/-! ## Replays one after the other -/

namespace Replay

variable {s : Setup} {ts : List Token} {r : Replay}

/-- How far a replay has come that has done what `q` has after all that was done in `r`. The
effects that are active are those of `q` alone. -/
def follow (r q : Replay) : Replay :=
  ⟨q.scope, r.text ++ q.text, r.pieces ++ q.pieces, r.log ++ q.log⟩

theorem follow_start (h : r.scope = .empty) : r.follow start = r := by
  obtain ⟨scope, text, pieces, log⟩ := r
  obtain rfl : scope = .empty := h
  simp [follow, start]

/-- What a token does depends on the scope, and not on what was shown before. -/
theorem step_follow (s : Setup) (r q : Replay) (t : Token) :
    (r.follow q).step s t = (q.step s t).map r.follow := by
  cases t with
  | text content => simp [step, follow, Except.map, String.append_assoc]
  | opening name arguments =>
    simp only [step]
    cases s.registry.get? name with
    | none => rfl
    | some effect => simp [follow, Except.map]
  | closing name =>
    have hscope : (r.follow q).scope = q.scope := rfl
    simp only [step, hscope]
    cases q.scope.contains name with
    | false => rfl
    | true => simp [follow, Except.map]

theorem run_follow (s : Setup) (r q : Replay) (ts : List Token) :
    (r.follow q).run s ts = (r.follow (q.run s ts).1, (q.run s ts).2) := by
  induction ts generalizing q with
  | nil => rfl
  | cons t ts ih =>
    rw [run, run, step_follow]
    cases q.step s t with
    | ok next => exact ih next
    | error e => rfl

theorem Reached.run_eq_none (h : Reached s ts ts.length r) : Replay.start.run s ts = (r, none) := by
  rw [h.run_eq, List.drop_length]
  rfl

theorem reached_of_run_eq_none (h : Replay.start.run s ts = (r, none)) :
    Reached s ts ts.length r := by
  obtain ⟨q, hq⟩ | ⟨p, q, t, e, hq, ht, he⟩ := reached_length_or_error s ts
  · rw [hq.run_eq_none] at h
    obtain rfl := congrArg Prod.fst h
    exact hq
  · obtain ⟨hp, rfl⟩ := List.getElem?_eq_some_iff.1 ht
    rw [hq.run_eq, List.drop_eq_getElem_cons hp, run, he] at h
    cases h

/-- Nothing is active in the scope when no name is active at the end. -/
theorem Reached.scope_eq_empty (h : Reached s ts ts.length r)
    (hclosed : ∀ n, ¬ ActiveBefore ts ts.length n) : r.scope = .empty := by
  have hnames : r.scope.names = [] := by
    rw [h.names_eq, List.eq_nil_iff_forall_not_mem]
    exact fun n hn => hclosed n (mem_activeNames_iff.1 hn)
  exact Scope.ext (List.map_eq_nil_iff.1 hnames)

/-- Behind closed tags a replay goes on as if it had just started. -/
theorem Reached.run_append_of_closed (h : Reached s ts ts.length r)
    (hclosed : ∀ n, ¬ ActiveBefore ts ts.length n) (us : List Token) :
    Replay.start.run s (ts ++ us) =
      (r.follow (Replay.start.run s us).1, (Replay.start.run s us).2) := by
  rw [run_append, h.run_eq_none, ← run_follow, follow_start (h.scope_eq_empty hclosed)]

end Replay

/-! ## The line -/

/-- The glyphs are those of some pieces that are set one after the other, the first of them where
the line starts. The line ends where the next piece would stand. -/
structure Font.Sets (f : Font) (start : Float32) (ps : List Piece) (gs : List Glyph)
    (finish : Float32) : Prop where
  pieces : gs.map Glyph.toPiece = ps
  cursor : ∀ (i : Nat) g, gs[i]? = some g →
    g.cursor = (ps.take i).foldl (fun x p => x + f.width p.cluster * p.appearance.scale.x) start
  finish : finish = ps.foldl (fun x p => x + f.width p.cluster * p.appearance.scale.x) start

theorem Font.sets_place (f : Font) (start : Float32) (ps : List Piece) :
    f.Sets start ps (f.place start ps) (f.advance start ps) where
  pieces := f.map_toPiece_place start ps
  cursor i g hg := by
    rw [f.place_eq_mapIdx, List.getElem?_mapIdx, Option.map_eq_some_iff] at hg
    obtain ⟨p, -, rfl⟩ := hg
    rfl
  finish := rfl

theorem Replay.rendering_follow (s : Setup) (r q : Replay) :
    (r.follow q).rendering s =
      ⟨(r.rendering s).text ++ (q.rendering s).text,
        (r.rendering s).glyphs ++ s.font.place (r.rendering s).width q.pieces,
        s.font.advance (r.rendering s).width q.pieces⟩ := by
  simp only [Replay.rendering, follow, Font.place_append, Font.advance_append]

/-! ## Two texts -/

namespace Setup

variable {σ : Type} [Sink σ] {s : Setup} {ts : List Token} {sink : σ}

/-- **A text behind closed tags is shown as by itself.** When a text can be shown and nothing is
active at its end, the text behind it can be shown if it can be by itself, and else fails with the
error that it has by itself. It shows the same clusters with the same appearances, set from the
place on where the first text ends. -/
theorem renderInto_append_of_closed {first : Rendering} (h : (s.renderInto ts sink).1 = .ok first)
    (hclosed : ∀ n, ¬ ActiveBefore ts ts.length n) (us : List Token) (x y : σ) :
    ((∃ both, (s.renderInto (ts ++ us) x).1 = .ok both) ↔
        ∃ alone, (s.renderInto us y).1 = .ok alone) ∧
      (∀ e, (s.renderInto (ts ++ us) x).1 = .error e ↔ (s.renderInto us y).1 = .error e) ∧
      ∀ both alone, (s.renderInto (ts ++ us) x).1 = .ok both →
        (s.renderInto us y).1 = .ok alone →
        both.text = first.text ++ alone.text ∧
          ∃ ps rest, both.glyphs = first.glyphs ++ rest ∧
            s.font.Sets 0 ps alone.glyphs alone.width ∧
            s.font.Sets first.width ps rest both.width := by
  obtain ⟨r, hr, rfl⟩ := reached_of_renderInto_ok h
  rw [renderInto_fst_eq, renderInto_fst_eq, hr.run_append_of_closed hclosed]
  obtain ⟨q, error⟩ := Replay.start.run s us
  cases error with
  | none =>
    refine ⟨⟨fun _ => ⟨_, rfl⟩, fun _ => ⟨_, rfl⟩⟩, fun e => ⟨nofun, nofun⟩, ?_⟩
    rintro both alone hboth halone
    obtain rfl := Except.ok.inj hboth
    obtain rfl := Except.ok.inj halone
    rw [Replay.rendering_follow]
    exact ⟨rfl, q.pieces, _, rfl, s.font.sets_place 0 q.pieces, s.font.sets_place _ q.pieces⟩
  | some d => exact ⟨⟨nofun, nofun⟩, fun e => Iff.rfl, nofun⟩

/-- Tags that overlap and are all closed in the end. -/
def closedTags : List Token :=
  [.openingWith "wave" [("wave", 3)], .text "ab", .openingWith "scale" [("scale", 2)],
    .closing "wave", .text "c", .closing "scale"]

/-- A text that opens one of these tags again. -/
def reopenedTags : List Token := [.openingWith "scale" [("x", 3)], .text "de"]

def closedSetup : Setup := ⟨.builtin, .monospace 8, {}⟩

theorem renderInto_append_closedTags :
    ∃ first both alone, (closedSetup.renderInto closedTags Batch.empty).1 = .ok first ∧
      (∀ n, ¬ ActiveBefore closedTags closedTags.length n) ∧
      (closedSetup.renderInto (closedTags ++ reopenedTags) Batch.empty).1 = .ok both ∧
      (closedSetup.renderInto reopenedTags Batch.empty).1 = .ok alone ∧
      both.text = "abc" ++ "de" ∧
      (∃ ps rest, both.glyphs = first.glyphs ++ rest ∧
        closedSetup.font.Sets 0 ps alone.glyphs alone.width ∧
        closedSetup.font.Sets first.width ps rest both.width) ∧
      (closedSetup.renderInto (closedTags ++ [.closing "wave"]) Batch.empty).1 =
        .error (.unmatchedClose "wave") := by
  have hfirst : (closedSetup.renderInto closedTags Batch.empty).1 = .ok _ := rfl
  have halone : (closedSetup.renderInto reopenedTags Batch.empty).1 = .ok _ := rfl
  have hclosed : ∀ n, ¬ ActiveBefore closedTags closedTags.length n := by
    intro n hn
    have hnone : activeNames closedTags closedTags.length = [] := by decide
    exact List.not_mem_nil (hnone ▸ mem_activeNames_iff.2 hn)
  have hbehind := renderInto_append_of_closed hfirst hclosed
  obtain ⟨hok, -, hboth⟩ := hbehind reopenedTags Batch.empty Batch.empty
  obtain ⟨both, hshown⟩ := hok.2 ⟨_, halone⟩
  obtain ⟨htext, hset⟩ := hboth both _ hshown halone
  -- the wave is closed, so that closing it once more fails as it does by itself
  obtain ⟨-, herror, -⟩ := hbehind [.closing "wave"] Batch.empty Batch.empty
  exact ⟨_, both, _, hfirst, hclosed, hshown, halone, htext, hset, (herror _).2 rfl⟩

end Setup

end GlyphEffects
