import Mathlib.Data.List.Induction
import GlyphEffects.Label
import GlyphEffects.Proofs.FirstFault

/-! # What a label shows

A label may be updated, given new tokens and settings and drawn in any order, and its sink may be
changed behind its back. What it shows comes all from one rendering: that of the latest update that
succeeded, made of the tokens and the settings of that moment. An operation that fails changes
nothing.

* `Label.run_update` is what an update does, the batch of its own left out.
* `Label.perform_eq_getD_attempt`: **an operation that fails leaves the label as it was.**
* `Label.Step` is an operation, or any change of the sink, and `Label.after` the label after some.
* `Label.tokensAfter`, `Label.setupAfter` and `Label.shownAfter` read tokens, settings and rendering
  off the steps taken, and `Label.after_eq` says that the label has these.
* `Label.coherent_of_ofSource?`: **every label that was made and then worked on is coherent.**
-/

namespace GlyphEffects

open GlyphEffects.Markup

namespace Label

variable {σ : Type}

/-! ## What the steps determine -/

/-- What happens to a label: an operation, or a change of its sink behind its back. -/
inductive Step (σ : Type)
  | operation (command : Command)
  | sink (change : σ → σ)

/-- The tokens that a step gives to the label. -/
def Step.tokens? : Step σ → Option (List Token)
  | operation (.setSource source) => source.read.toOption
  | _ => none

/-- The settings that a step gives to the label. -/
def Step.settings? : Step σ → Option Settings
  | operation (.configure settings) => some settings
  | _ => none

/-- The rendering that a step makes of some tokens: it is an update, and showing them succeeds. -/
def Step.rendering? (s : Setup) (ts : List Token) : Step σ → Option Rendering
  | operation .update => (s.renderInto ts Batch.empty).1.toOption
  | _ => none

/-- The tokens that were given last. -/
def tokensAfter (l : Label σ) (hs : List (Step σ)) : List Token :=
  (hs.filterMap Step.tokens?).getLast?.getD l.tokens

/-- The settings that were given last. -/
def settingsAfter (l : Label σ) (hs : List (Step σ)) : Settings :=
  (hs.filterMap Step.settings?).getLast?.getD l.setup.settings

/-- What the label is shown with: nothing but the settings ever changes. -/
def setupAfter (l : Label σ) (hs : List (Step σ)) : Setup :=
  { l.setup with settings := l.settingsAfter hs }

/-- The rendering that step `k` makes of the tokens of that moment. -/
def renderingAt? (l : Label σ) (hs : List (Step σ)) (k : Nat) : Option Rendering :=
  hs[k]?.bind (Step.rendering? (l.setupAfter (hs.take k)) (l.tokensAfter (hs.take k)))

/-- The rendering that was made last. -/
def shownAfter (l : Label σ) (hs : List (Step σ)) : Rendering :=
  ((List.range hs.length).filterMap (l.renderingAt? hs)).getLast?.getD l.shown

theorem tokensAfter_concat (l : Label σ) (hs : List (Step σ)) (h : Step σ) :
    l.tokensAfter (hs ++ [h]) = h.tokens?.getD (l.tokensAfter hs) :=
  History.getD_getLast?_filterMap_concat Step.tokens? l.tokens hs h

theorem setupAfter_concat (l : Label σ) (hs : List (Step σ)) (h : Step σ) :
    l.setupAfter (hs ++ [h]) =
      { l.setup with settings := h.settings?.getD (l.setupAfter hs).settings } := by
  rw [setupAfter, settingsAfter, History.getD_getLast?_filterMap_concat]
  rfl

/-- One more step makes a rendering of the tokens and the settings that it meets. -/
theorem renderingAt?_concat (l : Label σ) (hs : List (Step σ)) (h : Step σ) (k : Nat) :
    l.renderingAt? (hs ++ [h]) k =
      if k = hs.length then h.rendering? (l.setupAfter hs) (l.tokensAfter hs)
      else l.renderingAt? hs k := by
  split
  next hk =>
    subst hk
    rw [renderingAt?, List.getElem?_concat_length, List.take_left]
    rfl
  next hk =>
    rcases Nat.lt_or_gt_of_ne hk with hlt | hgt
    · rw [renderingAt?, renderingAt?, List.getElem?_append_left hlt,
        List.take_append_of_le_length (Nat.le_of_lt hlt)]
    · have hend : hs.length + 1 ≤ k := hgt
      rw [renderingAt?, renderingAt?, List.getElem?_eq_none (by simpa using hend),
        List.getElem?_eq_none (Nat.le_of_lt hgt)]
      rfl

theorem shownAfter_concat (l : Label σ) (hs : List (Step σ)) (h : Step σ) :
    l.shownAfter (hs ++ [h]) =
      (h.rendering? (l.setupAfter hs) (l.tokensAfter hs)).getD (l.shownAfter hs) := by
  have hbefore : (List.range hs.length).filterMap (l.renderingAt? (hs ++ [h])) =
      (List.range hs.length).filterMap (l.renderingAt? hs) := by
    refine List.filterMap_congr fun k hk => ?_
    rw [renderingAt?_concat, if_neg (Nat.ne_of_lt (List.mem_range.1 hk))]
  rw [shownAfter, List.length_append, List.length_singleton, List.range_succ,
    History.getD_getLast?_filterMap_concat, hbefore, renderingAt?_concat, if_pos rfl]
  rfl

/-! ## Operations -/

theorem fields_of_ofSource? {font : Font} {source : Source} {registry : Registry} {sink : σ}
    {l : Label σ} (h : ofSource? font source registry sink = .ok l) :
    source.read = .ok l.tokens ∧ l.setup = ⟨registry, font, {}⟩ ∧ l.shown = .blank := by
  rw [ofSource?] at h
  cases hr : source.read with
  | ok tokens =>
    rw [hr] at h
    obtain rfl := Except.ok.inj h
    exact ⟨rfl, rfl, rfl⟩
  | error fault => rw [hr] at h; nomatch h

theorem run_get_bind (l : Label σ) (f : Label σ → Action σ Unit) :
    ((get : Action σ (Label σ)) >>= f).run l = (f l).run l := rfl

variable [Sink σ]

/-- The label after a rendering that succeeded. -/
def accept (l : Label σ) (shown : Rendering) : Label σ :=
  { l with
    text := shown.text
    width := shown.width
    staged := Batch.empty.addMany shown.glyphs
    sink := Sink.addMany (Sink.clear l.sink) shown.glyphs }

theorem shown_accept (l : Label σ) (shown : Rendering) : (l.accept shown).shown = shown := rfl

theorem run_adopt_ok (l : Label σ) (shown : Rendering) :
    (adopt (.ok shown, Batch.empty.addMany shown.glyphs)).run l = (.ok (), l.accept shown) := rfl

theorem run_adopt_error (l : Label σ) (e : Error) (staged : Batch) :
    (adopt (.error e, staged)).run l = (.error e, l) := rfl

theorem run_update (l : Label σ) :
    update.run l =
      match (l.setup.renderInto l.tokens Batch.empty).1 with
      | .ok shown => (.ok (), l.accept shown)
      | .error e => (.error e, l) := by
  rw [update, run_get_bind]
  cases h : l.setup.renderInto l.tokens Batch.empty with
  | mk result staged =>
    cases result with
    | ok shown =>
      have hstaged := Setup.renderInto_snd_of_ok (congrArg Prod.fst h)
      rw [h, Batch.addMany_eq] at hstaged
      rw [show staged = Batch.empty.addMany shown.glyphs from hstaged]
      exact run_adopt_ok l shown
    | error e => exact run_adopt_error l e staged

theorem attempt_update (l : Label σ) :
    l.attempt .update = (l.setup.renderInto l.tokens Batch.empty).1.map l.accept := by
  rw [attempt, perform, Command.action, run_update]
  cases (l.setup.renderInto l.tokens Batch.empty).1 <;> rfl

theorem attempt_setSource (l : Label σ) (source : Source) :
    l.attempt (.setSource source) =
      match source.read with
      | .ok tokens => .ok { l with tokens }
      | .error fault => .error (.markup fault) := by
  rw [attempt, perform, Command.action, setSource]
  cases source.read <;> rfl

/-- An operation that fails leaves the label as it was. -/
theorem perform_eq_getD_attempt (l : Label σ) (c : Command) :
    l.perform c = (l.attempt c).toOption.getD l := by
  cases c with
  | update =>
    rw [attempt, perform, Command.action, run_update]
    cases (l.setup.renderInto l.tokens Batch.empty).1 <;> rfl
  | setSource source =>
    rw [attempt, perform, Command.action, setSource]
    cases source.read <;> rfl
  | configure settings => rfl
  | draw placement => rfl
  | onSink command => rfl

theorem attempt_update_error {l : Label σ} {e : Error} (h : l.attempt .update = .error e) :
    ∃ n, e = .unknownEffect n ∨ e = .unmatchedClose n := by
  rw [attempt_update, Except.map_eq_error_iff] at h
  exact Setup.exists_name_of_renderInto_error h

theorem attempt_setSource_ok {l next : Label σ} {source : Source}
    (h : l.attempt (.setSource source) = .ok next) :
    ∃ tokens, source.read = .ok tokens ∧ next = { l with tokens } := by
  rw [attempt_setSource] at h
  cases hr : source.read with
  | ok tokens =>
    rw [hr] at h
    exact ⟨tokens, rfl, (Except.ok.inj h).symm⟩
  | error fault => rw [hr] at h; nomatch h

/-! ## Steps -/

/-- The label after a step, whether it succeeds or fails. -/
def Step.apply (l : Label σ) : Step σ → Label σ
  | operation c => l.perform c
  | sink change => { l with sink := change l.sink }

/-- The label after some steps. -/
def after (l : Label σ) (hs : List (Step σ)) : Label σ := hs.foldl Step.apply l

/-- What one step does to tokens, settings and rendering. -/
theorem Step.apply_eq (l : Label σ) (h : Step σ) :
    (h.apply l).tokens = h.tokens?.getD l.tokens ∧
      (h.apply l).setup = { l.setup with settings := h.settings?.getD l.setup.settings } ∧
      (h.apply l).shown = (h.rendering? l.setup l.tokens).getD l.shown := by
  cases h with
  | sink change => exact ⟨rfl, rfl, rfl⟩
  | operation c =>
    rw [apply, perform_eq_getD_attempt]
    cases c with
    | update =>
      rw [attempt_update, rendering?]
      cases (l.setup.renderInto l.tokens Batch.empty).1 with
      | ok shown => exact ⟨rfl, rfl, l.shown_accept shown⟩
      | error e => exact ⟨rfl, rfl, rfl⟩
    | setSource source =>
      rw [attempt_setSource, tokens?]
      cases source.read with
      | ok tokens => exact ⟨rfl, rfl, rfl⟩
      | error fault => exact ⟨rfl, rfl, rfl⟩
    | configure settings => exact ⟨rfl, rfl, rfl⟩
    | draw placement => exact ⟨rfl, rfl, rfl⟩
    | onSink command => exact ⟨rfl, rfl, rfl⟩

theorem after_concat (l : Label σ) (hs : List (Step σ)) (h : Step σ) :
    l.after (hs ++ [h]) = h.apply (l.after hs) := by
  rw [after, List.foldl_concat]
  rfl

/-- After any steps, tokens, settings and rendering are those that the steps determine. -/
theorem after_eq (l : Label σ) (hs : List (Step σ)) :
    (l.after hs).tokens = l.tokensAfter hs ∧ (l.after hs).setup = l.setupAfter hs ∧
      (l.after hs).shown = l.shownAfter hs := by
  induction hs using List.reverseRecOn with
  | nil => exact ⟨rfl, rfl, rfl⟩
  | append_singleton hs h ih =>
    obtain ⟨htokens, hsetup, hshown⟩ := ih
    obtain ⟨hgiven, hchosen, hmade⟩ := Step.apply_eq (l.after hs) h
    rw [after_concat, hgiven, hchosen, hmade, htokens, hsetup, hshown, tokensAfter_concat,
      setupAfter_concat, shownAfter_concat]
    exact ⟨rfl, rfl, rfl⟩

/-- **A label is coherent.** Whatever has happened to it since it was made, its tokens and its
settings are those given last, and what it shows is the rendering that was made last, of the tokens
and the settings of that moment. What fails leaves it as it is, sink and all; new tokens change
nothing but the tokens, and new settings nothing but the settings. -/
theorem coherent_of_ofSource? {font : Font} {source : Source} {registry : Registry} {sink : σ}
    {l : Label σ} (h : ofSource? font source registry sink = .ok l) (hs : List (Step σ)) :
    (source.read = .ok l.tokens ∧ l.setup = ⟨registry, font, {}⟩ ∧ l.shown = .blank) ∧
      (l.after hs).tokens = l.tokensAfter hs ∧
      (l.after hs).setup = l.setupAfter hs ∧
      (l.after hs).shown = l.shownAfter hs ∧
      (∀ c e, (l.after hs).attempt c = .error e → (l.after hs).perform c = l.after hs) ∧
      (∀ e, (l.after hs).attempt .update = .error e →
        ∃ n, e = .unknownEffect n ∨ e = .unmatchedClose n) ∧
      (∀ source next, (l.after hs).attempt (.setSource source) = .ok next →
        ∃ tokens, source.read = .ok tokens ∧ next = { l.after hs with tokens }) ∧
      ∀ settings, (l.after hs).attempt (.configure settings) =
        .ok { l.after hs with setup := { (l.after hs).setup with settings } } := by
  obtain ⟨htokens, hsetup, hshown⟩ := l.after_eq hs
  refine ⟨fields_of_ofSource? h, htokens, hsetup, hshown, fun c e he => ?_,
    fun e he => attempt_update_error he, fun us next hnext => attempt_setSource_ok hnext,
    fun settings => rfl⟩
  rw [perform_eq_getD_attempt, he]
  rfl

/-- A label is shown, is given a tag that closes nothing and other settings, and fails to be shown;
its sink is cleared. -/
def reworked : List (Step Batch) :=
  [.operation .update, .operation (.setSource (.tokens [.closing "x"])),
    .operation (.configure { warnLeftOpen := false }), .operation .update, .sink Batch.clear]

theorem coherent_reworked :
    ∃ l, ofSource? (.monospace 8) (.tokens [.text "a"]) .empty Batch.empty = .ok l ∧
      (l.after reworked).tokens = [.closing "x"] ∧ (l.after reworked).shown.text = "a" ∧
      (l.after reworked).setup.settings = { warnLeftOpen := false } ∧
      (l.after reworked).perform .update = l.after reworked := by
  have h : ofSource? (.monospace 8) (.tokens [.text "a"]) .empty Batch.empty = .ok _ := rfl
  obtain ⟨-, htokens, hsetup, hshown, hfails, -⟩ := coherent_of_ofSource? h reworked
  refine ⟨_, h, htokens, ?_, ?_, hfails .update (.unmatchedClose "x") ?_⟩
  · rw [hshown]
    decide +kernel
  · rw [hsetup]
    rfl
  · rfl

end Label

end GlyphEffects
