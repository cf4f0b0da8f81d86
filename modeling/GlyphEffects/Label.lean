import GlyphEffects.Markup.Parse
import GlyphEffects.Stream

/-! # Labels

A label is a text that is kept on show. It has its tokens, what it is shown with, the text, the width
and the glyphs of the last rendering that succeeded, and the sink that its glyphs are put into. New
tokens and new settings count from the next update on. An update shows the text into a batch of its
own first; only when the whole text is shown, the sink is refilled and the rendering is replaced.

* `Label.ofSource?` makes a label, and `Label.shown` is what it shows.
* `Label.Action` is work on a label that may fail half-way; `Label.update` shows the text anew.
* `Label.Command` is an operation on a label as a value. `Label.perform` carries it out, and
  `Label.attempt` says what comes of it.
-/

namespace GlyphEffects

open GlyphEffects.Markup

/-- A text that is kept on show. -/
structure Label (σ : Type := Batch) where
  setup : Setup
  tokens : List Token
  text : String
  width : Float32
  staged : Batch
  sink : σ

namespace Label

variable {σ : Type} [Sink σ]

/-- What a label shows. -/
def shown (l : Label σ) : Rendering := ⟨l.text, l.staged.glyphs, l.width⟩

/-- A label that shows nothing yet, with the settings that hold by themselves. -/
def ofSource? (font : Font) (source : Source) (registry : Registry) (sink : σ) :
    Except Error (Label σ) :=
  match source.read with
  | .ok tokens => .ok ⟨⟨registry, font, {}⟩, tokens, "", 0, .empty, sink⟩
  | .error fault => .error (.markup fault)

def configure (l : Label σ) (settings : Settings) : Label σ :=
  { l with setup := { l.setup with settings } }

/-- What comes of showing the tokens as they are now. -/
def outcome (l : Label σ) : Outcome := l.setup.render l.tokens

/-- What an update tells. -/
def updateEvents (l : Label σ) : List Event :=
  l.outcome.log ++
    match l.outcome.result with
    | .ok shown => [.updated shown.glyphs.length shown.width shown.text]
    | .error _ => []

/-! ## Work on a label -/

/-- Work on a label. When it fails half-way, what it has done by then stays done. -/
abbrev Action (σ : Type) := ExceptT Error (StateM (Label σ))

def setSource (source : Source) : Action σ Unit :=
  match source.read with
  | .ok tokens => modify fun l => { l with tokens }
  | .error fault => throw (.markup fault)

/-- Empties the sink and fills it with glyphs. -/
def refill (glyphs : List Glyph) : Action σ Unit := do
  modify fun l => { l with sink := Sink.clear l.sink }
  modify fun l => { l with sink := Sink.addMany l.sink glyphs }

/-- Takes over what was shown into a batch of its own, if it was shown to the end. -/
def adopt : Except Error Rendering × Batch → Action σ Unit
  | (.error e, _) => throw e
  | (.ok applied, staged) => do
    refill staged.glyphs
    modify fun l => { l with text := applied.text }
    modify fun l => { l with width := applied.width }
    modify fun l => { l with staged }

/-- Shows the text anew. -/
def update : Action σ Unit := do
  let l ← get
  adopt (l.setup.renderInto l.tokens Batch.empty)

/-- An operation on a label. -/
inductive Command
  | update
  | setSource (source : Source)
  | configure (settings : Settings)
  | draw (placement : Placement)
  | onSink (command : Batch.Command)

/-- The work that an operation consists of. -/
def Command.action : Command → Action σ Unit
  | update => Label.update
  | setSource source => Label.setSource source
  | configure settings => modify (·.configure settings)
  | draw placement => modify fun l => { l with sink := Sink.draw l.sink placement }
  | onSink command => modify fun l => { l with sink := Sink.perform l.sink command }

/-- What an operation tells. -/
def Command.events (l : Label σ) : Command → List Event
  | .update => l.updateEvents
  | _ => []

def perform (l : Label σ) (c : Command) : Label σ := (c.action.run l).2

/-- The label after an operation that succeeds, or what went wrong. -/
def attempt (l : Label σ) (c : Command) : Except Error (Label σ) :=
  (c.action.run l).1.map fun _ => l.perform c

end Label

end GlyphEffects
