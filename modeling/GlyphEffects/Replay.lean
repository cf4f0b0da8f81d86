import GlyphEffects.Font
import GlyphEffects.Registry
import GlyphEffects.Scope
import GlyphEffects.Settings
import GlyphEffects.Text.Cluster

/-! # Replaying tokens

The tokens of a text are replayed from left to right. Tags change the scope; the text between them
is cut into clusters, and every cluster is dressed in the appearance that the active effects make
of the base. A tag that opens an unknown effect or closes one that is not open stops the replay;
what was done before it stays done. Last the pieces are set on the line.

* `Replay.step` is what one token does, and `Replay.run` what several do.
* `Replay.run_append` says that a replay can be made in parts.
* `Setup.render` replays the tokens of a whole text.
-/

namespace GlyphEffects

open GlyphEffects.Markup GlyphEffects.Text

/-! ## One token -/

/-- The positions of the clusters in a run of text. -/
def Position.ofRun (content : String) : List Position :=
  let cs := clusters content
  (cs.zipIdx 1).map fun c => ⟨c.1, c.2, cs.length⟩

/-- What a text is shown with. -/
structure Setup where
  registry : Registry
  font : Font
  settings : Settings

/-- How far a replay has come: the active effects, what was shown and what was told. -/
structure Replay where
  scope : Scope
  text : String
  pieces : List Piece
  log : List Event

namespace Replay

def start : Replay := ⟨.empty, "", [], []⟩

/-- The clusters of a run of text, dressed by the effects of a scope. -/
def dress (base : Appearance) (scope : Scope) (content : String) : List Piece :=
  (Position.ofRun content).map fun p => ⟨p.cluster, scope.apply p base⟩

/-- Replays a token. The arguments of an effect always carry the name of its tag. -/
def step (s : Setup) (r : Replay) : Token → Except Error Replay
  | .text content =>
    .ok
      { r with
        text := r.text ++ content
        pieces := r.pieces ++ dress s.settings.base r.scope content
        log := r.log ++ [.text content r.scope.size] }
  | .opening name arguments =>
    match s.registry.get? name with
    | none => .error (.unknownEffect name)
    | some effect =>
      .ok
        { r with
          scope := r.scope.activate effect (arguments.ownedBy name)
          log := r.log ++ [.opened name] }
  | .closing name =>
    if r.scope.contains name then
      .ok { r with scope := r.scope.deactivate name, log := r.log ++ [.closed name] }
    else .error (.unmatchedClose name)

/-! ## Several tokens -/

/-- Replays tokens up to the first that fails, whose error comes with what was done before it. -/
def run (s : Setup) (r : Replay) : List Token → Replay × Option Error
  | [] => (r, none)
  | t :: ts =>
    match r.step s t with
    | .ok next => run s next ts
    | .error e => (r, some e)

theorem run_append (s : Setup) (r : Replay) (ts us : List Token) :
    r.run s (ts ++ us) =
      match r.run s ts with
      | (next, none) => next.run s us
      | (last, some e) => (last, some e) := by
  induction ts generalizing r with
  | nil => rfl
  | cons t ts ih =>
    simp only [List.cons_append, run]
    split
    · exact ih _
    · rfl

/-- What is told when all tokens are replayed. -/
def warnings (s : Setup) (r : Replay) : List Event :=
  if s.settings.warnLeftOpen && !r.scope.isEmpty then [.leftOpen r.scope.names] else []

end Replay

/-! ## A whole text -/

/-- A text as it is shown: the text without its tags, its glyphs, and the width of the line. -/
@[ext] structure Rendering where
  text : String
  glyphs : List Glyph
  width : Float32
deriving DecidableEq

def Rendering.blank : Rendering := ⟨"", [], 0⟩

/-- What comes of showing a text: its rendering or the error that stopped it, the glyphs that were
made by then, and what was told. -/
structure Outcome where
  result : Except Error Rendering
  glyphs : List Glyph
  log : List Event

namespace Setup

def outcome (s : Setup) (r : Replay) (error : Option Error) : Outcome :=
  let glyphs := s.font.place 0 r.pieces
  match error with
  | none => ⟨.ok ⟨r.text, glyphs, s.font.advance 0 r.pieces⟩, glyphs, r.log ++ r.warnings s⟩
  | some e => ⟨.error e, glyphs, r.log⟩

/-- Shows the text that some tokens stand for. -/
def render (s : Setup) (ts : List Token) : Outcome :=
  let (r, error) := Replay.start.run s ts
  s.outcome r error

end Setup

end GlyphEffects
