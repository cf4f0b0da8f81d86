import GlyphEffects.Proofs.SinkContents
import GlyphEffects.Snapshot

/-! # Snapshots and labels

A snapshot of a format text and a label that shows it come to the same. A fault of the format is told
before anything is shown, an unknown or unmatched tag when it is; and the glyphs are the same
wherever they are kept: in the batch of the snapshot, in the rendering, in the batch that the label
fills first, and in its sink.

* `Snapshot.render_of_parse_ok`: a snapshot is the rendering of the tokens that are read.
* `Label.fresh` and `Label.ofSource?_eq_fresh`: the label that is made of tokens, be they given or read
  off a format text.
* `Snapshot.agreement_law`: **a snapshot and a label agree on every format text.**
-/

namespace GlyphEffects

open GlyphEffects.Markup BatchSink

/-! ## Snapshots -/

namespace Snapshot

variable {format : String} {g : Registry} {ts : List Token} {fault : InvalidArgument}

theorem render_of_parse_error (h : parse format = .error fault) :
    render format g = .error (.markup fault) := by
  rw [render, h]

theorem render_of_parse_ok (h : parse format = .ok ts) :
    render format g = ((setup g).renderInto ts Batch.empty).1.map Rendering.glyphs := by
  simp only [render, h]
  cases hr : (setup g).renderInto ts Batch.empty with
  | mk result batch =>
    cases result with
    | ok shown =>
      have hbatch := Setup.renderInto_snd_of_ok (congrArg Prod.fst hr)
      rw [hr, Batch.addMany_eq] at hbatch
      exact congrArg (fun b => Except.ok b.glyphs) hbatch
    | error e => rfl

/-- Only a fault of the format is told as one. -/
theorem render_eq_markup_iff :
    render format g = .error (.markup fault) ↔ parse format = .error fault := by
  constructor
  · intro h
    cases hp : parse format with
    | error d =>
      rw [render_of_parse_error hp] at h
      rw [Error.markup.inj (Except.error.inj h)]
    | ok ts =>
      rw [render_of_parse_ok hp, Except.map_eq_error_iff] at h
      obtain ⟨n, hn | hn⟩ := Setup.exists_name_of_renderInto_error h <;> cases hn
  · exact render_of_parse_error

end Snapshot

/-! ## Labels -/

namespace Label

variable {σ : Type}

/-- A label that has some tokens and shows nothing yet. -/
def fresh (font : Font) (g : Registry) (x : σ) (ts : List Token) : Label σ :=
  ⟨⟨g, font, {}⟩, ts, "", 0, .empty, x⟩

variable {font : Font} {g : Registry} {x : σ} {format : String} {ts : List Token}

theorem ofSource?_format_eq_markup_iff {fault : InvalidArgument} :
    ofSource? font (.format format) g x = .error (.markup fault) ↔ parse format = .error fault := by
  rw [ofSource?, Source.read]
  cases parse format <;> simp

/-- The tokens of a format text make the same label as the format text. -/
theorem ofSource?_eq_fresh (font : Font) (g : Registry) (x : σ) (h : parse format = .ok ts) :
    ofSource? font (.format format) g x = .ok (fresh font g x ts) ∧
      ofSource? font (.tokens ts) g x = .ok (fresh font g x ts) := by
  refine ⟨?_, rfl⟩
  rw [ofSource?, Source.read, h]
  rfl

theorem attempt_update_fresh [Sink σ] :
    (fresh font g x ts).attempt .update =
      (Setup.renderInto ⟨g, font, {}⟩ ts Batch.empty).1.map (fresh font g x ts).accept :=
  attempt_update _

end Label

namespace Snapshot

/-- **A snapshot and a label agree on every format text**, whatever the sink of the label holds. Both
tell a fault of the format, and the same one, whatever its tags would do; and a label for the tokens
of a format text is the label for the format text. If there is no fault, the snapshot fails exactly
when updating the label does, with the same error; and if that succeeds, the glyphs of the snapshot
are those of the rendering, of the label and of its sink. -/
theorem agreement_law {σ : Type} [BatchSink σ] (format : String) (g : Registry) (x : σ) :
    (∀ fault,
        (render format g = .error (.markup fault) ↔ parse format = .error fault) ∧
          (Label.ofSource? (.monospace 1) (.format format) g x = .error (.markup fault) ↔
            parse format = .error fault)) ∧
      ∀ ts, parse format = .ok ts →
        ∃ l, Label.ofSource? (.monospace 1) (.format format) g x = .ok l ∧
          Label.ofSource? (.monospace 1) (.tokens ts) g x = .ok l ∧
          (∀ e, render format g = .error e ↔ l.attempt .update = .error e) ∧
          (∀ e, render format g = .error e → ∃ n, e = .unknownEffect n ∨ e = .unmatchedClose n) ∧
          ∀ gs, render format g = .ok gs →
            ∃ shown next,
              (∀ (τ : Type) [Sink τ] (y : τ),
                (Setup.renderInto ⟨g, .monospace 1, {}⟩ ts y).1 = .ok shown) ∧
              l.attempt .update = .ok next ∧
              shown.glyphs = gs ∧ next.staged.glyphs = gs ∧ (batch next.sink).glyphs = gs := by
  refine ⟨fun fault => ⟨render_eq_markup_iff, Label.ofSource?_format_eq_markup_iff⟩, fun ts h => ?_⟩
  obtain ⟨hformat, htokens⟩ := Label.ofSource?_eq_fresh (.monospace 1) g x h
  refine ⟨_, hformat, htokens, ?_⟩
  rw [Label.attempt_update_fresh, render_of_parse_ok h, setup]
  refine ⟨fun e => Except.map_eq_error_iff.trans Except.map_eq_error_iff.symm, fun e he => ?_,
    fun gs hgs => ?_⟩
  · exact Setup.exists_name_of_renderInto_error (Except.map_eq_error_iff.1 he)
  · obtain ⟨shown, hr, rfl⟩ := Except.map_eq_ok_iff.1 hgs
    refine ⟨shown, _, fun τ _ y => ?_, Except.map_eq_ok_iff.2 ⟨shown, hr, rfl⟩, rfl, rfl, ?_⟩
    · rw [Setup.renderInto_fst_eq, ← Setup.renderInto_fst_eq _ _ Batch.empty, hr]
    · rw [Label.batch_sink_accept]

end Snapshot

end GlyphEffects
