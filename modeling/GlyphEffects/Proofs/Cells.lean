import GlyphEffects.Proofs.ClusterRules
import GlyphEffects.Proofs.Projection

/-! # Clusters in cells

On a grid of equal cells every cluster takes one cell or two, and this is the same whether the cluster
stands in its text or by itself: measured by itself it is still one cluster. So a text takes the
cells of its clusters, and a line is set in whole cells.

* `Text.TakesTwo`: something in a cluster makes it two cells wide.
* `Text.clusters_eq_singleton`, `Text.cells_of_mem_clusters` and `Text.cells_eq_sum`: clusters by
  themselves, their cells, and the cells of a text.
* `Font.cursor_after_place`: where the cursor stands behind a glyph.
* `Stream.exists_text_of_glyph` and `Stream.cursor_after_glyph`: each glyph is a cluster of a text, and
  behind it the cursor has moved by its stride, however far the text is shown.
* `Font.monospace_law`: **every glyph is one cluster of one cell or two, by which the cursor moves.**
-/

namespace GlyphEffects

open GlyphEffects.Markup GlyphEffects.Number GlyphEffects.Text

/-! ## Cells -/

namespace Text

variable {g s : String}

/-- A character of the string is wide or asks for the emoji form. -/
def TakesTwo (s : String) : Prop := ∃ c ∈ s.toList, c = '\ufe0f' ∨ wides.has c

instance (s : String) : Decidable (TakesTwo s) :=
  inferInstanceAs (Decidable (∃ c ∈ s.toList, c = '\ufe0f' ∨ wides.has c))

theorem mem_clusters_iff : g ∈ clusters s ↔ g.toList ∈ Cluster.cut s.toList := by
  rw [clusters, List.mem_map]
  constructor
  · rintro ⟨cs, hcs, rfl⟩
    rwa [String.toList_ofList]
  · exact fun h => ⟨_, h, String.ofList_toList⟩

/-- **A cluster by itself is one cluster.** -/
theorem clusters_eq_singleton (h : g ∈ clusters s) : clusters g = [g] := by
  rw [clusters, Cluster.cut_eq_singleton (mem_clusters_iff.1 h), List.map_singleton,
    String.ofList_toList]

theorem ne_empty_of_mem_clusters (h : g ∈ clusters s) : g ≠ "" := by
  rintro rfl
  exact Cluster.ne_nil_of_mem_cut (mem_clusters_iff.1 h) rfl

theorem clusterCells_toList (s : String) :
    clusterCells s.toList = if TakesTwo s then 2 else 1 := by
  have hwide : s.toList.any isWide = true ↔ TakesTwo s := by
    simp only [List.any_eq_true, isWide, Bool.or_eq_true, decide_eq_true_iff, TakesTwo]
  rw [clusterCells]
  exact if_congr hwide rfl rfl

theorem cells_of_mem_clusters (h : g ∈ clusters s) : cells g = if TakesTwo g then 2 else 1 := by
  rw [cells, Cluster.cut_eq_singleton (mem_clusters_iff.1 h), ← clusterCells_toList]
  exact Nat.zero_add _

/-- **A text takes the cells of its clusters.** -/
theorem cells_eq_sum (s : String) : cells s = ((clusters s).map cells).sum := by
  have hcells : ∀ cs ∈ Cluster.cut s.toList, cells (String.ofList cs) = clusterCells cs := by
    intro cs hcs
    rw [cells, String.toList_ofList, Cluster.cut_eq_singleton hcs]
    exact Nat.zero_add _
  rw [clusters, List.map_map, cells, ← List.sum_eq_foldl]
  exact congrArg List.sum (List.map_congr_left fun cs hcs => (hcells cs hcs).symm)

/-- Clusters end where the rules let them end. -/
theorem clusters_end_iff {pre post : List Char} {c : Char} (hs : s.toList = pre ++ c :: post)
    (hpre : pre ≠ []) :
    (∃ L K, clusters s = L ++ K ∧ String.join L = String.ofList pre) ↔ ¬ Cluster.Joins pre c := by
  rw [← Cluster.endsAt_iff_not_joins hpre c post, ← hs]
  constructor
  · rintro ⟨L, K, hcut, hjoin⟩
    obtain ⟨L', K', hcut', rfl, rfl⟩ := List.map_eq_append_iff.1 hcut
    exact ⟨L', K', hcut', String.ofList_inj.1 ((join_map_ofList L').symm.trans hjoin)⟩
  · rintro ⟨L, K, hcut, hflat⟩
    refine ⟨L.map String.ofList, K.map String.ofList, by rw [clusters, hcut, List.map_append], ?_⟩
    rw [join_map_ofList, hflat]

end Text

/-! ## The line -/

namespace Font

theorem width_monospace {g s : String} (h : g ∈ clusters s) (cell : Float32) :
    (monospace cell).width g = (if TakesTwo g then 2 else 1) * cell := by
  have hwidth : (monospace cell).width g = ofCount (if TakesTwo g then 2 else 1) * cell := by
    rw [← cells_of_mem_clusters h]
    rfl
  rw [hwidth]
  split
  · exact congrArg (· * cell) (rfl : ofCount 2 = 2)
  · exact congrArg (· * cell) (rfl : ofCount 1 = 1)

/-- Behind a glyph the cursor stands where the next one does, or at the end of the line. -/
theorem cursor_after_place {f : Font} {cursor : Float32} {ps : List Piece} {k : Nat} {g : Glyph}
    (h : (f.place cursor ps)[k]? = some g) :
    ((f.place cursor ps)[k + 1]?.map Glyph.cursor).getD (f.advance cursor ps) =
      g.cursor + f.stride g.toPiece := by
  induction ps generalizing cursor k with
  | nil => cases h
  | cons p ps ih =>
    cases k with
    | zero =>
      obtain rfl := Option.some.inj h
      cases ps <;> rfl
    | succ k => exact ih h

end Font

/-! ## What is shown -/

namespace Replay

variable {s : Setup} {ts : List Token}

theorem exists_reached_run (s : Setup) (ts : List Token) :
    ∃ p, Reached s ts p (Replay.start.run s ts).1 := by
  obtain ⟨r, hr⟩ | ⟨p, r, t, e, hr, ht, he⟩ := reached_length_or_error s ts
  · refine ⟨ts.length, ?_⟩
    rw [hr.run_eq, List.drop_length]
    exact hr
  · obtain ⟨hp, rfl⟩ := List.getElem?_eq_some_iff.1 ht
    refine ⟨p, ?_⟩
    rw [hr.run_eq, List.drop_eq_getElem_cons hp, run, he]
    exact hr

/-- However far a replay comes, its pieces are clusters of the texts. -/
theorem exists_text_of_run {q : Piece} (hq : q ∈ (Replay.start.run s ts).1.pieces) :
    ∃ content, .text content ∈ ts ∧ q.cluster ∈ clusters content := by
  obtain ⟨p, hr⟩ := exists_reached_run s ts
  have hmem := List.mem_map_of_mem (f := Piece.cluster) hq
  rw [hr.map_cluster_pieces] at hmem
  obtain ⟨content, hcontent, hcluster⟩ := List.mem_flatMap.1 hmem
  obtain ⟨t, ht, htext⟩ := List.mem_filterMap.1 hcontent
  refine ⟨content, ?_, hcluster⟩
  cases t with
  | text content' =>
    obtain rfl := Option.some.inj htext
    exact List.mem_of_mem_take ht
  | opening => cases htext
  | closing => cases htext

end Replay

namespace Stream

variable {σ : Type} [Sink σ] {s : Setup} {ts : List Token} {x : σ} {k : Nat} {g : Glyph}

theorem shown_run (s : Setup) (ts : List Token) (x : σ) :
    ((start x).run s ts).1.shown = (Replay.start.run s ts).1.rendering s :=
  congrArg (fun st => st.1.shown) (run_streamed s x Replay.start ts)

/-- Each glyph is a cluster of a text. -/
theorem exists_text_of_glyph (h : ((start x).run s ts).1.shown.glyphs[k]? = some g) :
    ∃ content, .text content ∈ ts ∧ g.cluster ∈ clusters content := by
  rw [shown_run] at h
  refine Replay.exists_text_of_run (s := s) (q := g.toPiece) ?_
  rw [← Replay.map_toPiece_rendering s]
  exact List.mem_map_of_mem (List.mem_of_getElem? h)

/-- Behind each glyph the cursor has moved by its stride. -/
theorem cursor_after_glyph (h : ((start x).run s ts).1.shown.glyphs[k]? = some g) :
    (((start x).run s ts).1.shown.glyphs[k + 1]?.map Glyph.cursor).getD
        ((start x).run s ts).1.shown.width =
      g.cursor + s.font.stride g.toPiece := by
  rw [shown_run] at h ⊢
  exact Font.cursor_after_place h

end Stream

/-- **Every glyph is one cluster of one cell or two, by which the cursor moves.** The clusters of a
string are not empty and make up the string; they end where the rules let them end, and are as many
as is said at each position. Each of them by itself is one cluster and takes two cells or one, and the
string takes the cells of its clusters. And in whatever way a text is shown on a grid of equal cells,
and however far it comes, every glyph is one such cluster of a text. Behind it the cursor has moved by
its cells, stretched as its appearance says. -/
theorem Font.monospace_law (s : String) :
    (∀ g ∈ clusters s, g ≠ "" ∧ clusters g = [g] ∧ cells g = if TakesTwo g then 2 else 1) ∧
      String.join (clusters s) = s ∧
      (∀ pre c post, s.toList = pre ++ c :: post → pre ≠ [] →
        ((∃ L K, clusters s = L ++ K ∧ String.join L = String.ofList pre) ↔
          ¬ Cluster.Joins pre c)) ∧
      (Position.ofRun s).map Position.cluster = clusters s ∧
      (∀ q ∈ Position.ofRun s, q.length = (clusters s).length) ∧
      cells s = ((clusters s).map cells).sum ∧
      ∀ (registry : Registry) (cell : Float32) (settings : Settings) (ts : List Token) (σ : Type)
        [Sink σ] (x : σ) (k : Nat) (g : Glyph) (shown : Rendering),
        ((Stream.start x).run ⟨registry, .monospace cell, settings⟩ ts).1.shown = shown →
        shown.glyphs[k]? = some g →
          (∃ content, .text content ∈ ts ∧ g.cluster ∈ clusters content) ∧
            clusters g.cluster = [g.cluster] ∧
            (shown.glyphs[k + 1]?.map Glyph.cursor).getD shown.width =
              g.cursor + (if TakesTwo g.cluster then 2 else 1) * cell * g.appearance.scale.x := by
  refine ⟨fun g hg => ⟨ne_empty_of_mem_clusters hg, clusters_eq_singleton hg,
    cells_of_mem_clusters hg⟩, join_clusters s, fun pre c post hs hpre => clusters_end_iff hs hpre,
    ?_, ?_, cells_eq_sum s, ?_⟩
  · rw [Position.ofRun, List.map_map]
    exact List.zipIdx_map_fst 1 (clusters s)
  · intro q hq
    obtain ⟨c, -, rfl⟩ := List.mem_map.1 hq
    rfl
  · intro registry cell settings ts σ _ x k g shown hshown hk
    subst hshown
    obtain ⟨content, hcontent, hcluster⟩ := Stream.exists_text_of_glyph hk
    refine ⟨⟨content, hcontent, hcluster⟩, clusters_eq_singleton hcluster, ?_⟩
    rw [← Font.width_monospace hcluster]
    exact Stream.cursor_after_glyph hk

end GlyphEffects
