import GlyphEffects.Proofs.History
import GlyphEffects.Proofs.Streaming

/-! # How far a replay comes

`Reached s ts p r` says that the tokens before token `p` succeed one after the other and bring the
replay to `r`. A run either reaches the end of its tokens or stops at a token that fails.

* `Replay.step_cases`: all that a token can do when it succeeds; `Replay.step_of_opening` and
  `Replay.step_of_closing`: when a tag does.
* `Replay.reached_length_or_error`: the end is reached, or some token fails.
* `Reached.names_eq` and `Reached.contains_iff`: which effects are active, and in which order, is a
  matter of the tags passed.
* `Setup.renderInto_eq_of_reached`, `Setup.renderInto_eq_of_error`, `Setup.renderInto_fst_eq`,
  `Setup.reached_of_renderInto_ok` and `Setup.renderInto_ok_iff_run`: what a rendering comes to.
-/

namespace GlyphEffects

open GlyphEffects.Markup GlyphEffects.History

namespace Replay

variable {s : Setup} {ts : List Token} {p : Nat} {r next : Replay} {t : Token} {n : String}

/-! ## Steps and runs -/

theorem step_cases (h : r.step s t = .ok next) :
    (∃ content, t = .text content ∧
      next =
        { r with
          text := r.text ++ content
          pieces := r.pieces ++ dress s.settings.base r.scope content
          log := r.log ++ [.text content r.scope.size] }) ∨
    (∃ name arguments effect, t = .opening name arguments ∧ s.registry.get? name = some effect ∧
      next =
        { r with
          scope := r.scope.activate effect (arguments.rename name)
          log := r.log ++ [.opened name] }) ∨
    ∃ name, t = .closing name ∧ r.scope.contains name ∧
      next = { r with scope := r.scope.deactivate name, log := r.log ++ [.closed name] } := by
  cases t with
  | text content => exact .inl ⟨content, rfl, (Except.ok.inj h).symm⟩
  | opening name arguments =>
    simp only [step, Arguments.ownedBy_eq_rename] at h
    split at h
    next => cases h
    next effect he => exact .inr (.inl ⟨name, arguments, effect, rfl, he, (Except.ok.inj h).symm⟩)
  | closing name =>
    simp only [step] at h
    split at h
    next hc => exact .inr (.inr ⟨name, rfl, hc, (Except.ok.inj h).symm⟩)
    next => cases h

theorem step_of_opening {effect : Effect} (he : s.registry.get? n = some effect)
    (arguments : Arguments) (r : Replay) :
    r.step s (.opening n arguments) = .ok
      { r with
        scope := r.scope.activate effect (arguments.rename n)
        log := r.log ++ [.opened n] } := by
  simp only [step, he, Arguments.ownedBy_eq_rename]

theorem step_of_closing (hc : r.scope.contains n) :
    r.step s (.closing n) = .ok
      { r with scope := r.scope.deactivate n, log := r.log ++ [.closed n] } := by
  rw [step, if_pos hc]

/-- A run that reaches the end of its tokens has passed the first one. -/
theorem run_cons_ok {last : Replay} (h : r.run s (t :: ts) = (last, none)) :
    ∃ next, r.step s t = .ok next ∧ next.run s ts = (last, none) := by
  rw [run] at h
  split at h
  next next hs => exact ⟨next, hs, h⟩
  next => cases h

/-- The tokens before token `p` succeed and bring the replay to `r`. -/
inductive Reached (s : Setup) (ts : List Token) : Nat → Replay → Prop
  | start : Reached s ts 0 Replay.start
  | step {p : Nat} {r next : Replay} {t : Token} : Reached s ts p r → ts[p]? = some t →
      r.step s t = .ok next → Reached s ts (p + 1) next

namespace Reached

theorem le_length (h : Reached s ts p r) : p ≤ ts.length := by
  cases h with
  | start => exact Nat.zero_le _
  | step _ ht _ => exact (List.getElem?_eq_some_iff.1 ht).1

/-- What is reached depends on the tokens passed and on no other. -/
theorem congr {us : List Token} (h : Reached s ts p r) (he : ∀ i < p, us[i]? = ts[i]?) :
    Reached s us p r := by
  induction h with
  | start => exact .start
  | @step p r next t _ ht hs ih =>
    exact .step (ih fun i hi => he i (by omega)) ((he p (by omega)).trans ht) hs

theorem run_eq (h : Reached s ts p r) : Replay.start.run s ts = r.run s (ts.drop p) := by
  induction h with
  | start => rfl
  | @step p r next t _ ht hs ih =>
    obtain ⟨hp, rfl⟩ := List.getElem?_eq_some_iff.1 ht
    rw [ih, List.drop_eq_getElem_cons hp, run, hs]

theorem render_eq (h : Reached s ts ts.length r) : s.render ts = s.outcome r none := by
  rw [Setup.render, h.run_eq, List.drop_length]
  rfl

theorem render_eq_of_error {e : Error} (h : Reached s ts p r) (ht : ts[p]? = some t)
    (he : r.step s t = .error e) : s.render ts = s.outcome r (some e) := by
  obtain ⟨hp, rfl⟩ := List.getElem?_eq_some_iff.1 ht
  rw [Setup.render, h.run_eq, List.drop_eq_getElem_cons hp, run, he]

/-- The tokens up to token `p` alone are shown without an error. -/
theorem render_take_eq (h : Reached s ts p r) : s.render (ts.take p) = s.outcome r none := by
  have hlen : (ts.take p).length = p := List.length_take_of_le h.le_length
  have htake : Reached s (ts.take p) p r := h.congr fun i hi => List.getElem?_take_of_lt hi
  exact render_eq (hlen.symm ▸ htake)

end Reached

theorem reached_length_or_error (s : Setup) (ts : List Token) :
    (∃ r, Reached s ts ts.length r) ∨
      ∃ p r t e, Reached s ts p r ∧ ts[p]? = some t ∧ r.step s t = .error e := by
  by_contra hno
  have hall : ∀ p ≤ ts.length, ∃ r, Reached s ts p r := by
    intro p
    induction p with
    | zero => exact fun _ => ⟨_, .start⟩
    | succ p ih =>
      intro hp
      obtain ⟨r, hr⟩ := ih (by omega)
      have ht : ts[p]? = some ts[p] := List.getElem?_eq_getElem hp
      cases hs : r.step s ts[p] with
      | ok next => exact ⟨next, .step hr ht hs⟩
      | error e => exact absurd (.inr ⟨p, r, _, e, hr, ht, hs⟩) hno
  exact hno (.inl (hall _ (Nat.le_refl _)))

/-! ## The names of the scope -/

theorem Reached.names_eq (h : Reached s ts p r) : r.scope.names = activeNames ts p := by
  induction h with
  | start => rfl
  | @step p r next t _ ht hs ih =>
    obtain ⟨content, rfl, rfl⟩ | ⟨name, arguments, effect, rfl, he, rfl⟩ | ⟨name, rfl, -, rfl⟩ :=
      step_cases hs
    · rw [activeNames_succ_of_text ht]
      exact ih
    · rw [activeNames_succ_of_opening ht, ← ih, ← Registry.name_of_get? he]
      exact Scope.names_activate r.scope effect _
    · rw [activeNames_succ_of_closing ht, ← ih]
      exact Scope.names_deactivate r.scope name

theorem Reached.contains_iff (h : Reached s ts p r) :
    r.scope.contains n ↔ ActiveBefore ts p n := by
  rw [Scope.contains_iff_mem_names, h.names_eq, mem_activeNames_iff]

/-- The rendering that a replay stands for. -/
def rendering (s : Setup) (r : Replay) : Rendering :=
  ⟨r.text, s.font.place 0 r.pieces, s.font.advance 0 r.pieces⟩

theorem map_toPiece_rendering (s : Setup) (r : Replay) :
    (r.rendering s).glyphs.map Glyph.toPiece = r.pieces := s.font.map_toPiece_place 0 r.pieces

end Replay

/-! ## What is shown -/

namespace Setup

open Replay

variable {σ : Type} [Sink σ] {s : Setup} {ts : List Token} {p : Nat} {r : Replay}

theorem renderInto_eq_of_reached (h : Reached s ts ts.length r) (sink : σ) :
    s.renderInto ts sink = (.ok (r.rendering s), Sink.addMany sink (r.rendering s).glyphs) := by
  rw [renderInto_eq, h.render_eq]
  rfl

theorem renderInto_take_eq (h : Reached s ts p r) (sink : σ) :
    s.renderInto (ts.take p) sink =
      (.ok (r.rendering s), Sink.addMany sink (r.rendering s).glyphs) := by
  rw [renderInto_eq, h.render_take_eq]
  rfl

theorem renderInto_eq_of_error {t : Token} {e : Error} (h : Reached s ts p r)
    (ht : ts[p]? = some t) (he : r.step s t = .error e) (sink : σ) :
    s.renderInto ts sink = (.error e, Sink.addMany sink (r.rendering s).glyphs) := by
  rw [renderInto_eq, h.render_eq_of_error ht he]
  rfl

theorem reached_of_renderInto_ok {sink : σ} {shown : Rendering}
    (h : (s.renderInto ts sink).1 = .ok shown) :
    ∃ r, Reached s ts ts.length r ∧ shown = r.rendering s := by
  obtain ⟨r, hr⟩ | ⟨p, r, t, e, hr, ht, he⟩ := reached_length_or_error s ts
  · rw [renderInto_eq_of_reached hr] at h
    exact ⟨r, hr, (Except.ok.inj h).symm⟩
  · rw [renderInto_eq_of_error hr ht he] at h
    cases h

/-- What showing a text comes to is read off its replay. -/
theorem renderInto_fst_eq (s : Setup) (ts : List Token) (sink : σ) :
    (s.renderInto ts sink).1 =
      match Replay.start.run s ts with
      | (r, none) => .ok (r.rendering s)
      | (_, some e) => .error e := by
  rw [renderInto_eq, render]
  obtain ⟨r, error⟩ := Replay.start.run s ts
  cases error <;> rfl

theorem renderInto_ok_iff_run {sink : σ} {shown : Rendering} :
    (s.renderInto ts sink).1 = .ok shown ↔
      ∃ r, Replay.start.run s ts = (r, none) ∧ shown = r.rendering s := by
  rw [renderInto_fst_eq]
  obtain ⟨r, error⟩ := Replay.start.run s ts
  cases error with
  | none =>
    constructor
    · intro h
      exact ⟨r, rfl, (Except.ok.inj h).symm⟩
    · rintro ⟨_, ⟨⟩, rfl⟩
      rfl
  | some e =>
    constructor
    · intro h
      cases h
    · rintro ⟨_, h, -⟩
      cases h

/-- A sink takes in the glyphs of the rendering. -/
theorem renderInto_snd_of_ok {sink : σ} {shown : Rendering}
    (h : (s.renderInto ts sink).1 = .ok shown) :
    (s.renderInto ts sink).2 = Sink.addMany sink shown.glyphs := by
  obtain ⟨r, hr, rfl⟩ := reached_of_renderInto_ok h
  rw [renderInto_eq_of_reached hr]

end Setup

end GlyphEffects
