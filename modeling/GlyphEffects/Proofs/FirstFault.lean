import GlyphEffects.Proofs.Reach

/-! # The first fault

A tag is at fault when it opens a name without an effect or closes a name that is not active. The
tokens before the first fault are shown as if they were all, and nothing behind it counts.

* `History.Fault g ts p e`: token `p` is at fault, and `e` says how; `History.FirstFault` is a fault
  that no other comes before. `History.WellTagged` says that there is none.
* `Replay.Reached.step_error_iff`: a token fails exactly when it is at fault.
* `Replay.Reached.exists_before`: what is shown before a token begins what is shown before a later
  one.
* `Setup.renderInto_law`: **when showing a text succeeds, which error stops it, and what the sink
  has taken in by then.**
-/

namespace GlyphEffects

open GlyphEffects.Markup

namespace Except

variable {ε α β : Type} {x : Except ε α} {f : α → β}

theorem map_eq_error_iff {e : ε} : x.map f = .error e ↔ x = .error e := by
  cases x <;> simp [Except.map]

theorem map_eq_ok_iff {b : β} : x.map f = .ok b ↔ ∃ a, x = .ok a ∧ f a = b := by
  cases x <;> simp [Except.map]

end Except

namespace History

/-- Token `p` is at fault. -/
inductive Fault (g : Registry) (ts : List Token) (p : Nat) : Error → Prop
  | unknown {n : String} {arguments : Arguments} : ts[p]? = some (.opening n arguments) →
      ¬ g.contains n → Fault g ts p (.unknownEffect n)
  | unmatched {n : String} : ts[p]? = some (.closing n) → ¬ ActiveBefore ts p n →
      Fault g ts p (.unmatchedClose n)

/-- Token `p` is at fault, and no token before it is. -/
def FirstFault (g : Registry) (ts : List Token) (p : Nat) (e : Error) : Prop :=
  Fault g ts p e ∧ ∀ i < p, ∀ d, ¬ Fault g ts i d

/-- Every opening tag names an effect, and every closing tag a name that is active before it. -/
def WellTagged (g : Registry) (ts : List Token) : Prop :=
  (∀ (p : Nat) n arguments, ts[p]? = some (.opening n arguments) → g.contains n) ∧
    ∀ (p : Nat) n, ts[p]? = some (.closing n) → ActiveBefore ts p n

theorem Fault.lt_length {g : Registry} {ts : List Token} {p : Nat} {e : Error}
    (h : Fault g ts p e) : p < ts.length := by
  cases h with
  | unknown ht _ => exact (List.getElem?_eq_some_iff.1 ht).1
  | unmatched ht _ => exact (List.getElem?_eq_some_iff.1 ht).1

theorem wellTagged_iff {g : Registry} {ts : List Token} :
    WellTagged g ts ↔ ∀ p e, ¬ Fault g ts p e := by
  constructor
  · rintro ⟨ho, hc⟩ p e he
    cases he with
    | unknown h hn => exact hn (ho p _ _ h)
    | unmatched h hn => exact hn (hc p _ h)
  · intro h
    refine ⟨fun p n arguments ht => ?_, fun p n ht => ?_⟩
    · by_contra hn
      exact h p _ (.unknown ht hn)
    · by_contra hn
      exact h p _ (.unmatched ht hn)

end History

open History

namespace Replay

variable {s : Setup} {ts : List Token} {p q : Nat} {r last : Replay} {t : Token} {e : Error}

/-! ## Faults and failing steps -/

theorem Reached.step_error_iff (h : Reached s ts p r) (ht : ts[p]? = some t) :
    r.step s t = .error e ↔ Fault s.registry ts p e := by
  constructor
  · intro he
    cases t with
    | text content => cases he
    | opening name arguments =>
      simp only [Replay.step] at he
      split at he
      next hg =>
        obtain rfl := Except.error.inj he
        exact .unknown ht (by simp [Registry.contains, hg])
      next => cases he
    | closing name =>
      simp only [Replay.step] at he
      split at he
      next => cases he
      next hc =>
        obtain rfl := Except.error.inj he
        exact .unmatched ht fun ha => hc (h.contains_iff.2 ha)
  · intro hf
    cases hf with
    | unknown hto hn =>
      obtain rfl := Option.some.inj (ht.symm.trans hto)
      have hg := Option.not_isSome_iff_eq_none.1 hn
      simp only [Replay.step, hg]
    | unmatched htc hn =>
      obtain rfl := Option.some.inj (ht.symm.trans htc)
      exact if_neg fun hc => hn (h.contains_iff.1 hc)

theorem Reached.not_fault (h : Reached s ts p r) : ∀ i < p, ∀ d, ¬ Fault s.registry ts i d := by
  induction h with
  | start => exact fun i hi => absurd hi (Nat.not_lt_zero i)
  | @step p r next t hr ht hs ih =>
    intro i hi d hd
    rcases Nat.lt_succ_iff_lt_or_eq.1 hi with hi | rfl
    · exact ih i hi d hd
    · have he := (hr.step_error_iff ht).2 hd
      rw [hs] at he
      cases he

theorem firstFault_iff :
    FirstFault s.registry ts p e ↔
      ∃ r t, Reached s ts p r ∧ ts[p]? = some t ∧ r.step s t = .error e := by
  constructor
  · rintro ⟨hf, hfirst⟩
    obtain ⟨r, hr⟩ | ⟨q, r, t, d, hr, ht, hd⟩ := reached_length_or_error s ts
    · exact absurd hf (hr.not_fault p hf.lt_length e)
    · have hq : q = p := by
        rcases Nat.lt_trichotomy q p with hlt | heq | hgt
        · exact absurd ((hr.step_error_iff ht).1 hd) (hfirst q hlt d)
        · exact heq
        · exact absurd hf (hr.not_fault p hgt e)
      subst hq
      exact ⟨r, t, hr, ht, (hr.step_error_iff ht).2 hf⟩
  · rintro ⟨r, t, hr, ht, he⟩
    exact ⟨(hr.step_error_iff ht).1 he, hr.not_fault⟩

/-- The end is reached, or there is a first fault. -/
theorem reached_length_or_firstFault (s : Setup) (ts : List Token) :
    (∃ r, Reached s ts ts.length r) ∨ ∃ p e, FirstFault s.registry ts p e := by
  obtain h | ⟨p, r, t, e, h⟩ := reached_length_or_error s ts
  · exact .inl h
  · exact .inr ⟨p, e, firstFault_iff.2 ⟨r, t, h⟩⟩

theorem Reached.wellTagged (h : Reached s ts ts.length r) : WellTagged s.registry ts :=
  wellTagged_iff.2 fun p e hf => h.not_fault p hf.lt_length e hf

/-! ## Prefixes of a run -/

theorem step_grows (h : r.step s t = .ok last) :
    (∃ rest, last.text = r.text ++ rest) ∧ r.pieces <+: last.pieces := by
  obtain ⟨content, -, rfl⟩ | ⟨name, arguments, effect, -, -, rfl⟩ | ⟨name, -, -, rfl⟩ :=
    step_cases h
  · exact ⟨⟨content, rfl⟩, List.prefix_append _ _⟩
  · exact ⟨⟨"", String.append_empty.symm⟩, List.prefix_rfl⟩
  · exact ⟨⟨"", String.append_empty.symm⟩, List.prefix_rfl⟩

/-- A replay has come past every earlier token, with less of the text and fewer of the pieces. -/
theorem Reached.exists_before (h : Reached s ts q last) (hp : p ≤ q) :
    ∃ r, Reached s ts p r ∧ (∃ rest, last.text = r.text ++ rest) ∧ r.pieces <+: last.pieces := by
  induction h with
  | start =>
    obtain rfl := Nat.le_zero.1 hp
    exact ⟨_, .start, ⟨"", rfl⟩, List.prefix_rfl⟩
  | @step q r next t hr ht hs ih =>
    rcases Nat.le_succ_iff.1 hp with hp | rfl
    · obtain ⟨r', hr', ⟨rest, hrest⟩, hpieces⟩ := ih hp
      obtain ⟨⟨more, hmore⟩, hlonger⟩ := step_grows hs
      refine ⟨r', hr', ⟨rest ++ more, ?_⟩, hpieces.trans hlonger⟩
      rw [hmore, hrest, String.append_assoc]
    · exact ⟨next, .step hr ht hs, ⟨"", String.append_empty.symm⟩, List.prefix_rfl⟩

theorem place_prefix (f : Font) (cursor : Float32) {ps qs : List Piece} (h : ps <+: qs) :
    f.place cursor ps <+: f.place cursor qs := by
  obtain ⟨rest, rfl⟩ := h
  rw [f.place_append]
  exact List.prefix_append _ _

end Replay

/-! ## Showing into a sink -/

namespace Setup

open Replay

variable {σ : Type} [Sink σ] {s : Setup} {ts : List Token} {p : Nat}

theorem renderInto_ok_iff (sink : σ) :
    (∃ shown, (s.renderInto ts sink).1 = .ok shown) ↔ WellTagged s.registry ts := by
  constructor
  · rintro ⟨shown, h⟩
    obtain ⟨r, hr, -⟩ := reached_of_renderInto_ok h
    exact hr.wellTagged
  · intro h
    obtain ⟨r, hr⟩ | ⟨p, e, hf, -⟩ := reached_length_or_firstFault s ts
    · exact ⟨_, congrArg Prod.fst (renderInto_eq_of_reached hr sink)⟩
    · exact absurd hf (wellTagged_iff.1 h p e)

theorem firstFault_of_renderInto_error {e : Error} {sink : σ}
    (h : (s.renderInto ts sink).1 = .error e) : ∃ p, FirstFault s.registry ts p e := by
  obtain ⟨r, hr⟩ | ⟨p, d, hf⟩ := reached_length_or_firstFault s ts
  · rw [renderInto_eq_of_reached hr] at h
    cases h
  · obtain ⟨r, t, hr, ht, hd⟩ := firstFault_iff.1 hf
    rw [renderInto_eq_of_error hr ht hd] at h
    obtain rfl := Except.error.inj h
    exact ⟨p, hf⟩

theorem exists_name_of_renderInto_error {e : Error} {sink : σ}
    (h : (s.renderInto ts sink).1 = .error e) :
    ∃ n, e = .unknownEffect n ∨ e = .unmatchedClose n := by
  obtain ⟨p, hf, -⟩ := firstFault_of_renderInto_error h
  cases hf with
  | unknown _ _ => exact ⟨_, .inl rfl⟩
  | unmatched _ _ => exact ⟨_, .inr rfl⟩

/-- What follows a first fault does not count. -/
theorem renderInto_take_append_eq {e : Error} (h : FirstFault s.registry ts p e)
    (us : List Token) (sink : σ) :
    s.renderInto (ts.take (p + 1) ++ us) sink = s.renderInto ts sink := by
  obtain ⟨r, t, hr, ht, he⟩ := firstFault_iff.1 h
  have hp : p < ts.length := h.1.lt_length
  have hsame : ∀ i < p + 1, (ts.take (p + 1) ++ us)[i]? = ts[i]? := by
    intro i hi
    rw [List.getElem?_append_left (by rw [List.length_take]; omega), List.getElem?_take_of_lt hi]
  have hr' : Reached s (ts.take (p + 1) ++ us) p r := hr.congr fun i hi => hsame i (by omega)
  rw [renderInto_eq_of_error hr' ((hsame p (by omega)).trans ht) he,
    renderInto_eq_of_error hr ht he]

/-- **Showing into a batch.** It succeeds exactly when no tag is at fault, and then the batch has
taken in the glyphs of the rendering, and every prefix of the tokens is shown as a prefix. Else the
first fault is the error, whatever follows it, and the batch has taken in the glyphs that the tokens
before the fault show by themselves. -/
theorem renderInto_law (s : Setup) (ts : List Token) (b : Batch) :
    ((∃ shown, (s.renderInto ts b).1 = .ok shown) ↔ WellTagged s.registry ts) ∧
      (∀ shown, (s.renderInto ts b).1 = .ok shown →
        (s.renderInto ts b).2 = ⟨b.glyphs ++ shown.glyphs, b.draws⟩ ∧
          ∀ us, us <+: ts → ∃ part, (s.renderInto us b).1 = .ok part ∧
            part.glyphs <+: shown.glyphs ∧ ∃ rest, shown.text = part.text ++ rest) ∧
      (¬ WellTagged s.registry ts → ∃ p e, FirstFault s.registry ts p e) ∧
      ∀ p e, FirstFault s.registry ts p e →
        (s.renderInto ts b).1 = .error e ∧
          (∀ us, s.renderInto (ts.take (p + 1) ++ us) b = s.renderInto ts b) ∧
          ∃ part, (s.renderInto (ts.take p) b).1 = .ok part ∧
            (s.renderInto ts b).2 = ⟨b.glyphs ++ part.glyphs, b.draws⟩ := by
  refine ⟨renderInto_ok_iff b, fun shown h => ?_, fun h => ?_, fun p e h => ?_⟩
  · refine ⟨(renderInto_snd_of_ok h).trans (b.addMany_eq _), fun us hus => ?_⟩
    obtain ⟨last, hlast, rfl⟩ := reached_of_renderInto_ok h
    obtain ⟨r, hr, htext, hpieces⟩ := hlast.exists_before hus.length_le
    have hpart := renderInto_take_eq hr b
    rw [← List.prefix_iff_eq_take.1 hus] at hpart
    exact ⟨_, congrArg Prod.fst hpart, place_prefix s.font 0 hpieces, htext⟩
  · obtain ⟨r, hr⟩ | hf := reached_length_or_firstFault s ts
    · exact absurd hr.wellTagged h
    · exact hf
  · obtain ⟨r, t, hr, ht, he⟩ := firstFault_iff.1 h
    refine ⟨?_, fun us => renderInto_take_append_eq h us b, r.rendering s, ?_, ?_⟩
    · rw [renderInto_eq_of_error hr ht he]
    · rw [renderInto_take_eq hr]
    · rw [renderInto_eq_of_error hr ht he, Batch.addMany_eq]
      rfl

end Setup

end GlyphEffects
