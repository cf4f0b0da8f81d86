import GlyphEffects.Batch
import GlyphEffects.Replay

/-! # Showing into a sink

A text can be shown glyph by glyph: as soon as the appearance of a cluster is known, its glyph is
set where the cursor stands, is handed to a sink and is added to the rendering. When a tag stops
the replay, the sink keeps the glyphs that it has taken in.

* `Stream.emit` shows one cluster, `Stream.step` is what one token does, and `Stream.run` what
  several do.
* `Setup.renderInto` shows a whole text into a sink.
-/

namespace GlyphEffects

open GlyphEffects.Markup

/-- How far a text has come that is shown into a sink. The width of the line so far is where the
cursor stands. -/
@[ext] structure Stream (σ : Type) where
  scope : Scope
  shown : Rendering
  sink : σ

variable {σ : Type} [Sink σ]

namespace Stream

def start (sink : σ) : Stream σ := ⟨.empty, .blank, sink⟩

/-- Shows a cluster and moves the cursor on. -/
def emit (s : Setup) (st : Stream σ) (p : Position) : Stream σ :=
  let piece : Piece := ⟨p.cluster, st.scope.apply p s.settings.base⟩
  let glyph : Glyph := ⟨piece, st.shown.width⟩
  { st with
    shown :=
      { st.shown with
        glyphs := st.shown.glyphs ++ [glyph]
        width := st.shown.width + s.font.stride piece }
    sink := Sink.add st.sink glyph }

/-- Shows the text of a token, or lets its tag change the scope. -/
def step (s : Setup) (st : Stream σ) : Token → Except Error (Stream σ)
  | .text content =>
    let longer := { st with shown := { st.shown with text := st.shown.text ++ content } }
    .ok ((Position.ofRun content).foldl (emit s) longer)
  | .opening name arguments =>
    match s.registry.get? name with
    | none => .error (.unknownEffect name)
    | some effect =>
      .ok { st with scope := st.scope.activate effect (arguments.ownedBy name) }
  | .closing name =>
    if st.scope.contains name then .ok { st with scope := st.scope.deactivate name }
    else .error (.unmatchedClose name)

/-- Shows tokens up to the first that fails, whose error comes with what was shown before it. -/
def run (s : Setup) (st : Stream σ) : List Token → Stream σ × Option Error
  | [] => (st, none)
  | t :: ts =>
    match st.step s t with
    | .ok next => run s next ts
    | .error e => (st, some e)

end Stream

/-- Shows the text that some tokens stand for into a sink. -/
def Setup.renderInto (s : Setup) (ts : List Token) (sink : σ) : Except Error Rendering × σ :=
  match (Stream.start sink).run s ts with
  | (st, none) => (.ok st.shown, st.sink)
  | (st, some e) => (.error e, st.sink)

end GlyphEffects
