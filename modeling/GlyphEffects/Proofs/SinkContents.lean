import GlyphEffects.Proofs.Coherence

/-! # What the sink of a label holds

A label fills its sink at each update that succeeds, and in between the sink may be changed from
outside. When it is a batch, owned or lent, what it holds follows from the operations that were
made: its glyphs are those of the last update that succeeded, changed by what was done to the sink
since, and its draws are all that were ever made.

* `BatchSink` is a sink that is nothing but a batch, be that its own or one that is lent.
* `Command.edit` and `Command.placement?` are what an operation does to the glyphs from outside, and
  the placement with which it draws. `Label.LastUpdate` is the last update that succeeded.
* `Label.batch_sink_perform` is what one operation does to the batch, and
  `Label.glyphs_foldl_perform` and `Label.draws_foldl_perform` are what several do.
* `Label.sink_law`: **what the sink holds after any operations.**
-/

namespace GlyphEffects

/-! ## Sinks that are batches -/

/-- A sink that is nothing but a batch. -/
class BatchSink (σ : Type) extends Sink σ where
  batch : σ → Batch
  batch_injective : Function.Injective batch
  batch_clear : ∀ x, batch (clear x) = (batch x).clear
  batch_add : ∀ x g, batch (add x g) = (batch x).add g
  batch_draw : ∀ x p, batch (draw x p) = (batch x).draw p

namespace BatchSink

/-- A batch that the label owns. -/
instance : BatchSink Batch where
  batch := id
  batch_injective := Function.injective_id
  batch_clear _ := rfl
  batch_add _ _ := rfl
  batch_draw _ _ := rfl

/-- A batch that is lent to the label. -/
instance {σ : Type} [BatchSink σ] : BatchSink (Lent σ) where
  batch x := batch x.kept
  batch_injective _ _ h := Lent.ext (batch_injective h)
  batch_clear x := batch_clear x.kept
  batch_add x g := batch_add x.kept g
  batch_draw x p := batch_draw x.kept p

variable {σ : Type} [BatchSink σ]

theorem batch_addMany (x : σ) (gs : List Glyph) :
    batch (Sink.addMany x gs) = (batch x).addMany gs := by
  rw [← Batch.foldl_add]
  induction gs generalizing x with
  | nil => rfl
  | cons g gs ih =>
    rw [List.foldl_cons, ← batch_add, ← ih]
    rfl

/-- Refilling a sink drops the glyphs that it held, and leaves its draws. -/
theorem batch_refill (x : σ) (gs : List Glyph) :
    batch (Sink.addMany (Sink.clear x) gs) = ⟨gs, (batch x).draws⟩ := by
  rw [batch_addMany, batch_clear]
  rfl

end BatchSink

/-! ## Operations -/

namespace Label

open BatchSink

/-- What an operation does to the glyphs of the sink from outside. -/
def Command.edit (gs : List Glyph) : Command → List Glyph
  | onSink (.add g) => gs ++ [g]
  | onSink .clear => []
  | _ => gs

/-- The placement with which an operation draws, through the label or from outside. -/
def Command.placement? : Command → Option Placement
  | draw p => some p
  | onSink (.draw p) => some p
  | _ => none

/-- The rendering that operation `k` makes: it is an update, and it succeeds. -/
def madeAt? {σ : Type} (l : Label σ) (cs : List Command) (k : Nat) : Option Rendering :=
  l.renderingAt? (cs.map .operation) k

theorem madeAt?_of_length_le {σ : Type} {l : Label σ} {cs : List Command} {k : Nat}
    (h : cs.length ≤ k) : l.madeAt? cs k = none := by
  rw [madeAt?, renderingAt?, List.getElem?_eq_none (by simpa using h)]
  rfl

/-- Operation `k` is the last update that succeeds, and makes the rendering `shown`. -/
def LastUpdate {σ : Type} (l : Label σ) (cs : List Command) (k : Nat) (shown : Rendering) : Prop :=
  l.madeAt? cs k = some shown ∧ ∀ j, k < j → l.madeAt? cs j = none

variable {σ : Type} [BatchSink σ]

/-- Taking over a rendering drops the glyphs that the batch held, and leaves its draws. -/
theorem batch_sink_accept (l : Label σ) (shown : Rendering) :
    batch (l.accept shown).sink = ⟨shown.glyphs, (batch l.sink).draws⟩ :=
  batch_refill l.sink shown.glyphs

/-- **What an operation does to the batch.** An update that succeeds replaces the glyphs; all else
leaves them or edits them, and draws are added and never taken away. -/
theorem batch_sink_perform (l : Label σ) (c : Command) :
    batch (l.perform c).sink =
      ⟨((Step.operation c : Step σ).rendering? l.setup l.tokens).elim
          (c.edit (batch l.sink).glyphs) Rendering.glyphs,
        (batch l.sink).draws ++ c.placement?.toList⟩ := by
  have hkeep : ∀ b : Batch, b = ⟨b.glyphs, b.draws ++ []⟩ := fun b =>
    Batch.ext rfl (List.append_nil _).symm
  rw [perform_eq_getD_attempt]
  cases c with
  | update =>
    rw [attempt_update, Step.rendering?]
    cases (l.setup.renderInto l.tokens Batch.empty).1 with
    | ok shown => exact (l.batch_sink_accept shown).trans (hkeep _)
    | error e => exact hkeep _
  | setSource source =>
    rw [attempt_setSource]
    cases source.read with
    | ok tokens => exact hkeep _
    | error fault => exact hkeep _
  | configure settings => exact hkeep _
  | draw placement => exact batch_draw l.sink placement
  | onSink command =>
    cases command with
    | add g => exact (batch_add l.sink g).trans (hkeep _)
    | clear => exact (batch_clear l.sink).trans (hkeep _)
    | draw p => exact batch_draw l.sink p

theorem after_map_operation (l : Label σ) (cs : List Command) :
    l.after (cs.map .operation) = cs.foldl perform l := List.foldl_map

/-- The operation behind others makes a rendering of what the label has by then. -/
theorem madeAt?_concat (l : Label σ) (cs : List Command) (c : Command) (k : Nat) :
    l.madeAt? (cs ++ [c]) k =
      if k = cs.length then
        (Step.operation c : Step σ).rendering? (cs.foldl perform l).setup (cs.foldl perform l).tokens
      else l.madeAt? cs k := by
  obtain ⟨htokens, hsetup, -⟩ := l.after_eq (cs.map .operation)
  rw [after_map_operation] at htokens hsetup
  rw [madeAt?, List.map_append, List.map_singleton, renderingAt?_concat, List.length_map, htokens,
    hsetup, madeAt?]

/-- The glyphs are those of the last update that succeeded, with what was done to them since. -/
theorem glyphs_foldl_perform (l : Label σ) (cs : List Command) :
    (∃ k shown, l.LastUpdate cs k shown ∧
        (batch (cs.foldl perform l).sink).glyphs =
          (cs.drop (k + 1)).foldl Command.edit shown.glyphs) ∨
      (∀ k, l.madeAt? cs k = none) ∧
        (batch (cs.foldl perform l).sink).glyphs = cs.foldl Command.edit (batch l.sink).glyphs := by
  induction cs using List.reverseRecOn with
  | nil => exact .inr ⟨fun k => rfl, rfl⟩
  | append_singleton cs c ih =>
    rw [List.foldl_concat, batch_sink_perform]
    cases hc : (Step.operation c : Step σ).rendering? (cs.foldl perform l).setup
        (cs.foldl perform l).tokens with
    | some shown =>
      refine .inl ⟨cs.length, shown, ⟨?_, fun j hj => madeAt?_of_length_le ?_⟩, ?_⟩
      · rw [madeAt?_concat, if_pos rfl, hc]
      · rw [List.length_append]
        exact hj
      · have hend : (cs ++ [c]).drop (cs.length + 1) = [] :=
          List.drop_eq_nil_of_le (Nat.le_of_eq List.length_append)
        rw [hend]
        rfl
    | none =>
      -- the operation makes no rendering, so that the last update is the one before
      have hsame : ∀ k, l.madeAt? (cs ++ [c]) k = l.madeAt? cs k := by
        intro k
        rw [madeAt?_concat]
        split
        next hk => rw [hc, madeAt?_of_length_le (Nat.le_of_eq hk.symm)]
        next => rfl
      obtain ⟨k, shown, ⟨hk, hlast⟩, hglyphs⟩ | ⟨hno, hglyphs⟩ := ih
      · have hlt : k < cs.length := by
          by_contra hle
          rw [madeAt?_of_length_le (Nat.le_of_not_lt hle)] at hk
          cases hk
        refine .inl ⟨k, shown, ⟨(hsame k).trans hk, fun j hj => (hsame j).trans (hlast j hj)⟩, ?_⟩
        rw [List.drop_append_of_le_length hlt, List.foldl_concat, ← hglyphs]
        rfl
      · refine .inr ⟨fun k => (hsame k).trans (hno k), ?_⟩
        rw [List.foldl_concat, ← hglyphs]
        rfl

theorem draws_foldl_perform (l : Label σ) (cs : List Command) :
    (batch (cs.foldl perform l).sink).draws =
      (batch l.sink).draws ++ cs.filterMap Command.placement? := by
  induction cs using List.reverseRecOn with
  | nil => exact (List.append_nil _).symm
  | append_singleton cs c ih =>
    have hc : [c].filterMap Command.placement? = c.placement?.toList := by
      cases h : c.placement? <;> simp [h]
    rw [List.foldl_concat, batch_sink_perform, ih, List.filterMap_append, hc, List.append_assoc]

/-- After an update that succeeds the batch holds what the label shows, and updating again changes
nothing. -/
theorem attempt_update_again {l next : Label σ} (h : l.attempt .update = .ok next) :
    (batch next.sink).glyphs = next.staged.glyphs ∧ next.attempt .update = .ok next := by
  rw [attempt_update, Except.map_eq_ok_iff] at h
  obtain ⟨shown, hr, rfl⟩ := h
  have hrefill : Sink.addMany (Sink.clear (l.accept shown).sink) shown.glyphs =
      (l.accept shown).sink := by
    refine batch_injective ?_
    rw [batch_refill, batch_sink_accept]
  refine ⟨?_, ?_⟩
  · rw [batch_sink_accept]
    rfl
  · have hagain : ((l.accept shown).setup.renderInto (l.accept shown).tokens Batch.empty).1 =
        .ok shown := hr
    rw [attempt_update, hagain]
    exact congrArg (fun sink => Except.ok { l.accept shown with sink }) hrefill

/-- **What the sink holds.** After any operations its glyphs are those of the last update that
succeeded, changed by exactly what was done to the sink from outside since; and if there was none,
they are what it held at first, changed in the same way. Its draws are those that it had, and behind
them all that were made, so that none is ever lost. And whatever the sink holds, after an update that
succeeds it holds what the label shows, and updating again changes nothing. -/
theorem sink_law (l : Label σ) (cs : List Command) :
    ((∃ k shown, l.LastUpdate cs k shown ∧
          (batch (cs.foldl perform l).sink).glyphs =
            (cs.drop (k + 1)).foldl Command.edit shown.glyphs) ∨
        (∀ k, l.madeAt? cs k = none) ∧
          (batch (cs.foldl perform l).sink).glyphs =
            cs.foldl Command.edit (batch l.sink).glyphs) ∧
      (batch (cs.foldl perform l).sink).draws =
        (batch l.sink).draws ++ cs.filterMap Command.placement? ∧
      (∀ us, us <+: cs →
        (batch (us.foldl perform l).sink).draws <+: (batch (cs.foldl perform l).sink).draws) ∧
      ∀ (x : σ) next, attempt { cs.foldl perform l with sink := x } .update = .ok next →
        (batch next.sink).glyphs = next.staged.glyphs ∧ next.attempt .update = .ok next := by
  refine ⟨l.glyphs_foldl_perform cs, l.draws_foldl_perform cs, fun us hus => ?_,
    fun x next h => attempt_update_again h⟩
  obtain ⟨rest, rfl⟩ := hus
  rw [draws_foldl_perform, draws_foldl_perform, List.filterMap_append, ← List.append_assoc]
  exact List.prefix_append _ _

end Label

end GlyphEffects
