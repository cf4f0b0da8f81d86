import Mathlib.Algebra.GroupWithZero.Nat
import GlyphEffects.Proofs.Reading

/-! # The text that is shown

Effects change how clusters look and where they stand; which clusters there are, and in which order,
is a matter of the format text alone. Put together they are the text without its tags.

* `Token.text?`: the text of a text token.
* `Text.join_clusters`: the clusters of a text make up the text.
* `Replay.Reached.map_cluster_pieces` and `Setup.map_cluster_of_renderInto_ok`: what is shown are the
  clusters of the texts.
* `Setup.projection_of_parse`: **the text without its tags is what is shown, cluster by cluster.**
-/

namespace GlyphEffects

open GlyphEffects.Markup GlyphEffects.History GlyphEffects.Text

/-! ## Texts and their clusters -/

/-- The text of a text token. -/
def Markup.Token.text? : Token → Option String
  | text content => some content
  | _ => none

theorem Text.join_map_ofList (L : List (List Char)) :
    String.join (L.map String.ofList) = String.ofList L.flatten := by
  refine String.toList_inj.1 ?_
  rw [String.toList_join, List.flatMap_map, String.toList_ofList]
  calc L.flatMap (fun c => (String.ofList c).toList)
      = L.flatMap id := List.flatMap_congr fun c _ => String.toList_ofList
    _ = L.flatten := List.flatMap_id

theorem Text.join_clusters (s : String) : String.join (clusters s) = s := by
  rw [clusters, join_map_ofList, Cluster.flatten_cut, String.ofList_toList]

theorem Text.join_flatMap_clusters (ss : List String) :
    String.join (ss.flatMap clusters) = String.join ss := by
  induction ss with
  | nil => rfl
  | cons s ss ih => rw [List.flatMap_cons, String.join_append, join_clusters, ih, String.join_cons]

/-- Tags have no text of their own. -/
theorem join_filterMap_text? (ts : List Token) :
    String.join (ts.filterMap Token.text?) = String.join (ts.map contentOf) := by
  induction ts with
  | nil => rfl
  | cons t ts ih =>
    rw [List.map_cons, String.join_cons, ← ih]
    cases t with
    | text content => exact String.join_cons
    | opening name arguments => exact String.empty_append.symm
    | closing name => exact String.empty_append.symm

/-! ## Pieces -/

namespace Replay

variable {s : Setup} {ts : List Token} {p : Nat} {r : Replay}

/-- Whatever the effects of a scope are, they dress the clusters of a text in their order. -/
theorem map_cluster_dress (base : Appearance) (scope : Scope) (content : String) :
    (dress base scope content).map Piece.cluster = clusters content := by
  rw [dress, Position.ofRun, List.map_map, List.map_map]
  exact List.zipIdx_map_fst 1 (clusters content)

theorem Reached.map_cluster_pieces (h : Reached s ts p r) :
    r.pieces.map Piece.cluster = ((ts.take p).filterMap Token.text?).flatMap clusters := by
  induction h with
  | start => rfl
  | @step p r next t _ ht hs ih =>
    have htake : (ts.take (p + 1)).filterMap Token.text? =
        (ts.take p).filterMap Token.text? ++ t.text?.toList := by
      rw [List.take_add_one, ht, List.filterMap_append]
      cases t <;> rfl
    rw [htake, List.flatMap_append, ← ih]
    obtain ⟨content, rfl, rfl⟩ | ⟨name, arguments, effect, rfl, -, rfl⟩ | ⟨name, rfl, -, rfl⟩ :=
      step_cases hs
    · rw [List.map_append, map_cluster_dress]
      exact congrArg _ (List.flatMap_singleton _ _).symm
    · exact (List.append_nil _).symm
    · exact (List.append_nil _).symm

theorem map_cluster_rendering (s : Setup) (r : Replay) :
    ((r.rendering s).glyphs.map fun g => g.cluster) = r.pieces.map Piece.cluster := by
  rw [← r.map_toPiece_rendering s, List.map_map]
  rfl

end Replay

/-! ## Format texts -/

namespace Setup

variable {σ : Type} [Sink σ] {s : Setup} {format : String} {ts : List Token} {sink : σ}
  {shown : Rendering}

/-- The clusters that are shown are those of the texts, in their order. -/
theorem map_cluster_of_renderInto_ok (h : (s.renderInto ts sink).1 = .ok shown) :
    (shown.glyphs.map fun g => g.cluster) = (ts.filterMap Token.text?).flatMap clusters := by
  obtain ⟨r, hr, rfl⟩ := reached_of_renderInto_ok h
  rw [Replay.map_cluster_rendering, hr.map_cluster_pieces, List.take_length]

/-- **What is shown of a format text is the text without its tags.** So is what the clusters of its
glyphs make up, one after the other; and these are the clusters of its texts, each as often and in
the order in which it stands there, whatever the text is shown with. -/
theorem projection_of_parse (hparse : parse format = .ok ts)
    (h : (s.renderInto ts sink).1 = .ok shown) :
    shown.text = strip format ∧
      String.join (shown.glyphs.map fun g => g.cluster) = strip format ∧
      (shown.glyphs.map fun g => g.cluster) = (ts.filterMap Token.text?).flatMap clusters ∧
      shown.glyphs.length = ((ts.filterMap Token.text?).map fun c => (clusters c).length).sum := by
  obtain ⟨r, hr, rfl⟩ := reached_of_renderInto_ok h
  have hstrip : String.join (ts.map contentOf) = strip format :=
    (reads_iff.2 hparse).join_contentOf
  have htext : r.text = strip format := by rw [hr.text_eq, List.take_length, hstrip]
  have hclusters : (r.rendering s).glyphs.map (fun g => g.cluster) =
      (ts.filterMap Token.text?).flatMap clusters := by
    rw [Replay.map_cluster_rendering, hr.map_cluster_pieces, List.take_length]
  refine ⟨htext, ?_, hclusters, ?_⟩
  · rw [hclusters, join_flatMap_clusters, join_filterMap_text?, hstrip]
  · have hlength := congrArg List.length hclusters
    rw [List.length_map, List.length_flatMap] at hlength
    exact hlength

/-- A mark, a line end of two characters and a flag stand between tags, and the last brace is never
closed. -/
def clustered : String := "\x7bwave\x7de\u0301\x7b/wave\x7d\r\n\x7b scale , big\x7d🇩🇪x\x7b"

def clusteredTokens : List Token :=
  [.openingWith "wave" [], .text "e\u0301", .closing "wave", .text "\r\n",
    .openingWith "scale" [], .text "🇩🇪x\x7b"]

theorem projection_of_parse_clustered :
    ∃ shown, parse clustered = .ok clusteredTokens ∧
      (Setup.renderInto ⟨.builtin, .monospace 8, {}⟩ clusteredTokens Batch.empty).1 = .ok shown ∧
      shown.text = "e\u0301\r\n🇩🇪x\x7b" ∧
      (shown.glyphs.map fun g => g.cluster) = ["e\u0301", "\r\n", "🇩🇪", "x", "\x7b"] ∧
      shown.glyphs.length = 5 := by
  have hparse : parse clustered = .ok clusteredTokens := by with_unfolding_all rfl
  have hstrip : strip clustered = "e\u0301\r\n🇩🇪x\x7b" := by decide +kernel
  have hcut : (clusteredTokens.filterMap Token.text?).flatMap clusters =
      ["e\u0301", "\r\n", "🇩🇪", "x", "\x7b"] := by decide +kernel
  have hcount : ((clusteredTokens.filterMap Token.text?).map fun c => (clusters c).length).sum =
      5 := by decide +kernel
  have h : (renderInto ⟨.builtin, .monospace 8, {}⟩ clusteredTokens Batch.empty).1 = .ok _ := rfl
  obtain ⟨htext, -, hclusters, hlength⟩ := projection_of_parse hparse h
  exact ⟨_, hparse, h, htext.trans hstrip, hclusters.trans hcut, hlength.trans hcount⟩

end Setup

end GlyphEffects
