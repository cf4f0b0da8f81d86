import GlyphEffects.Markup.Parse
import GlyphEffects.Stream

/-! # Snapshots

A snapshot shows a format text once, in cells of width 1 and with the settings that hold by
themselves. Its glyphs are those that a batch has taken in when the whole text is shown.

* `Snapshot.render` gives the glyphs, and `Snapshot.table` their lines.
-/

namespace GlyphEffects.Snapshot

open GlyphEffects.Markup

/-- What a snapshot is shown with. -/
def setup (registry : Registry) : Setup := ⟨registry, .monospace 1, {}⟩

def render (format : String) (registry : Registry) : Except Error (List Glyph) :=
  match parse format with
  | .error fault => .error (.markup fault)
  | .ok tokens =>
    match (setup registry).renderInto tokens Batch.empty with
    | (.ok _, batch) => .ok batch.glyphs
    | (.error e, _) => .error e

/-- The lines of the glyphs of a format text. -/
def table (format : String) (registry : Registry) : Except Error String :=
  (render format registry).map Glyph.table

end GlyphEffects.Snapshot
