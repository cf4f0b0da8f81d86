import Mathlib.Data.List.Basic
import GlyphEffects.Stream

/-! # Streaming and replaying

`Setup.render` sets the pieces of a text on the line when the replay has ended, and
`Setup.renderInto` hands every glyph to a sink as soon as it is made. The two come to the same, also
when a tag stops them.

* `Replay.streamed` is how far a stream has come when a replay has come so far.
* `Stream.step_streamed` and `Stream.run_streamed`: a step and a run keep the two together.
* `Setup.renderInto_eq`: the result is that of `Setup.render`, and the sink has taken in the glyphs
  that were made.
-/

namespace GlyphEffects

open GlyphEffects.Markup

variable {σ : Type} [Sink σ]

theorem Sink.addMany_append (x : σ) (gs hs : List Glyph) :
    addMany x (gs ++ hs) = addMany (addMany x gs) hs := List.foldl_append

/-- The stream that has come as far as a replay. -/
def Replay.streamed (s : Setup) (sink : σ) (r : Replay) : Stream σ :=
  ⟨r.scope, ⟨r.text, s.font.place 0 r.pieces, s.font.advance 0 r.pieces⟩,
    Sink.addMany sink (s.font.place 0 r.pieces)⟩

namespace Stream

/-! ## Clusters -/

theorem emit_streamed (s : Setup) (sink : σ) (r : Replay) (p : Position) :
    (r.streamed s sink).emit s p =
      Replay.streamed s sink
        { r with pieces := r.pieces ++ [⟨p.cluster, r.scope.apply p s.settings.base⟩] } := by
  simp only [emit, Replay.streamed, Font.place_append, Font.advance_append, Sink.addMany_append]
  rfl

theorem foldl_emit_streamed (s : Setup) (sink : σ) (r : Replay) (ps : List Position) :
    ps.foldl (emit s) (r.streamed s sink) =
      Replay.streamed s sink
        { r with
          pieces := r.pieces ++ ps.map fun p => ⟨p.cluster, r.scope.apply p s.settings.base⟩ } := by
  induction ps generalizing r with
  | nil => simp
  | cons p ps ih => rw [List.foldl_cons, emit_streamed, ih]; simp

/-! ## Tokens -/

theorem step_streamed (s : Setup) (sink : σ) (r : Replay) (t : Token) :
    (r.streamed s sink).step s t = (r.step s t).map (Replay.streamed s sink) := by
  cases t with
  | text content =>
    have h := foldl_emit_streamed s sink { r with text := r.text ++ content }
      (Position.ofRun content)
    exact congrArg Except.ok h
  | opening name arguments =>
    simp only [step, Replay.step]
    cases s.registry.get? name <;> rfl
  | closing name =>
    cases h : r.scope.contains name <;> simp [step, Replay.step, Replay.streamed, h, Except.map]

theorem run_streamed (s : Setup) (sink : σ) (r : Replay) (ts : List Token) :
    (r.streamed s sink).run s ts = ((r.run s ts).1.streamed s sink, (r.run s ts).2) := by
  induction ts generalizing r with
  | nil => rfl
  | cons t ts ih =>
    rw [run, Replay.run, step_streamed]
    cases r.step s t with
    | ok next => exact ih next
    | error e => rfl

end Stream

theorem Setup.renderInto_eq (s : Setup) (ts : List Token) (sink : σ) :
    s.renderInto ts sink =
      ((s.render ts).result, Sink.addMany sink (s.render ts).glyphs) := by
  have hrun := Stream.run_streamed s sink Replay.start ts
  have hstart : Replay.start.streamed s sink = Stream.start sink := rfl
  rw [hstart] at hrun
  rw [renderInto, hrun, render]
  obtain ⟨r, error⟩ := Replay.start.run s ts
  cases error <;> rfl

end GlyphEffects
