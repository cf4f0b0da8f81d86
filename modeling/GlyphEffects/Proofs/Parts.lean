import Mathlib.Data.List.Basic
import GlyphEffects.Effect.Builtin
import GlyphEffects.Proofs.Reach

/-! # Parts of the appearance

Every built-in effect stays in one part of the appearance: it leaves the other parts as they are,
and what it puts in its own part it makes of that part alone. So a part comes out the same when the
tags of the effects of all other parts are left out. The tags that are left over open and close
their effects in the same order as before; and since only the scale moves the cursor, no tags but
those of the scale do.

* `Part`, `Appearance.get`, `Appearance.set` and `Part.owners`: the parts, and whose they are.
* `Effect.StaysIn` and `Part.staysIn_of_owns`: built-in effects stay in their parts.
* `Scope.keep` and `Scope.get_apply_keep`: a scope without the effects of other parts.
* `Replay.Follows`: a replay of the tags of one part keeps up with a replay of all tags.
* `Part.renderInto_filter_keeps`: **a part is shown alike with and without the other tags.**
-/

namespace GlyphEffects

open GlyphEffects.Markup

/-! ## Parts -/

/-- The parts of an appearance. -/
inductive Part
  | color
  | offset
  | scale
  | skew
  | rotation
deriving DecidableEq, Repr

namespace Part

/-- What is in a part. -/
def Value : Part → Type
  | color => Color
  | offset | scale | skew => Vec
  | rotation => Float32

/-- The names of the built-in effects that change a part. -/
def owners : Part → List String
  | color => ["color", "alpha", "rainbow"]
  | offset => ["offset", "wave", "shake"]
  | scale => ["scale"]
  | skew => ["skew"]
  | rotation => ["rotate"]

def owns (part : Part) (name : String) : Bool := part.owners.contains name

/-- Whether a token is left when the tags of the effects of all other parts are taken out. -/
def keeps (part : Part) (t : Token) : Bool := t.name?.all part.owns

end Part

namespace Appearance

def get (a : Appearance) : (part : Part) → part.Value
  | .color => a.color
  | .offset => a.offset
  | .scale => a.scale
  | .skew => a.skew
  | .rotation => a.rotation

def set (a : Appearance) : (part : Part) → part.Value → Appearance
  | .color, v => { a with color := v }
  | .offset, v => { a with offset := v }
  | .scale, v => { a with scale := v }
  | .skew, v => { a with skew := v }
  | .rotation, v => { a with rotation := v }

@[simp] theorem get_set_self (a : Appearance) (part : Part) (v : part.Value) :
    (a.set part v).get part = v := by
  cases part <;> rfl

theorem get_set_of_ne (a : Appearance) {part other : Part} (v : other.Value) (h : part ≠ other) :
    (a.set other v).get part = a.get part := by
  cases part <;> cases other <;> first | rfl | exact absurd rfl h

end Appearance

/-! ## Built-in effects -/

/-- An effect stays in a part if all that it does is to put there what it makes of that part. -/
def Effect.StaysIn (e : Effect) (part : Part) : Prop :=
  ∃ make : Arguments → Position → part.Value → part.Value,
    ∀ args p a, e.transform args p a = a.set part (make args p (a.get part))

namespace Part

variable {part : Part} {e : Effect} {a b : Appearance}

theorem staysIn_of_owns (he : e ∈ Effect.builtins) (ho : part.owns e.name) : e.StaysIn part := by
  -- the part of a plain appearance shows what the effect makes of it
  refine ⟨fun args p v => (e.transform args p (Appearance.plain.set part v)).get part, ?_⟩
  intro args p a
  simp only [Effect.builtins, List.mem_cons, List.not_mem_nil, or_false] at he
  rcases he with rfl | rfl | rfl | rfl | rfl | rfl | rfl | rfl | rfl <;> cases part <;>
    first
    | exact absurd ho (by decide)
    | rfl

theorem exists_owns (he : e ∈ Effect.builtins) : ∃ part : Part, part.owns e.name := by
  have hall : ∀ e ∈ Effect.builtins,
      ∃ part ∈ [color, offset, scale, skew, rotation], part.owns e.name := by decide
  obtain ⟨part, -, ho⟩ := hall e he
  exact ⟨part, ho⟩

theorem get_transform_of_not_owns (he : e ∈ Effect.builtins) (ho : part.owns e.name = false)
    (args : Arguments) (p : Position) (a : Appearance) :
    (e.transform args p a).get part = a.get part := by
  obtain ⟨other, hother⟩ := exists_owns he
  have hne : part ≠ other := by
    rintro rfl
    exact Bool.false_ne_true (ho.symm.trans hother)
  obtain ⟨make, hmake⟩ := staysIn_of_owns he hother
  rw [hmake, Appearance.get_set_of_ne _ _ hne]

theorem get_transform_congr (he : e ∈ Effect.builtins) (ho : part.owns e.name) (args : Arguments)
    (p : Position) (h : a.get part = b.get part) :
    (e.transform args p a).get part = (e.transform args p b).get part := by
  obtain ⟨make, hmake⟩ := staysIn_of_owns he ho
  rw [hmake, hmake, Appearance.get_set_self, Appearance.get_set_self, h]

end Part

theorem Registry.mem_builtins_of_get? {n : String} {e : Effect}
    (h : Registry.builtin.get? n = some e) : e ∈ Effect.builtins := by
  rw [builtin, get?_install, get?_empty, Option.none_or] at h
  exact List.mem_of_find?_eq_some h

/-! ## Scopes -/

namespace Active

variable {a b : Active} {as : List Active} {q : String → Bool}

theorem name_eq_and_of_pos {n : String} (h : q n = true) (a : Active) :
    (decide (a.name = n) && q a.name) = decide (a.name = n) := by
  by_cases ha : a.name = n <;> simp [ha, h]

theorem eq_or_mem_of_mem_put (h : b ∈ put a as) : b = a ∨ b ∈ as := by
  induction as with
  | nil => exact .inl (List.mem_singleton.1 h)
  | cons c cs ih =>
    unfold put at h
    split at h
    · rcases List.mem_cons.1 h with rfl | h
      · exact .inl rfl
      · exact .inr (List.mem_cons_of_mem _ h)
    · rcases List.mem_cons.1 h with rfl | h
      · exact .inr List.mem_cons_self
      · exact (ih h).imp_right (List.mem_cons_of_mem _)

theorem filter_put_of_pos (h : q a.name = true) (as : List Active) :
    (put a as).filter (q ·.name) = put a (as.filter (q ·.name)) := by
  induction as with
  | nil => exact List.filter_cons_of_pos h
  | cons b bs ih =>
    by_cases hb : b.name = a.name
    · simp [put, hb, h]
    · rw [put, if_neg hb, List.filter_cons, List.filter_cons, ih]
      split
      · rw [put, if_neg hb]
      · rfl

theorem filter_put_of_neg (h : q a.name = false) (as : List Active) :
    (put a as).filter (q ·.name) = as.filter (q ·.name) := by
  induction as with
  | nil => simp [put, h]
  | cons b bs ih =>
    by_cases hb : b.name = a.name
    · simp [put, hb, h]
    · rw [put, if_neg hb, List.filter_cons, List.filter_cons, ih]

end Active

namespace Scope

/-- The scope with those effects alone whose names a test lets through. -/
def keep (q : String → Bool) (s : Scope) : Scope := ⟨s.actives.filter (q ·.name)⟩

/-- Only built-in effects are active. -/
def BuiltIn (s : Scope) : Prop := ∀ a ∈ s.actives, a.effect ∈ Effect.builtins

variable {q : String → Bool} {s : Scope} {e : Effect} {n : String}

theorem keep_activate_of_pos (h : q e.name = true) (s : Scope) (args : Arguments) :
    (s.activate e args).keep q = (s.keep q).activate e args :=
  Scope.ext (Active.filter_put_of_pos h s.actives)

theorem keep_activate_of_neg (h : q e.name = false) (s : Scope) (args : Arguments) :
    (s.activate e args).keep q = s.keep q :=
  Scope.ext (Active.filter_put_of_neg h s.actives)

theorem keep_deactivate_of_pos (h : q n = true) (s : Scope) :
    (s.deactivate n).keep q = (s.keep q).deactivate n := by
  simp only [keep, deactivate, List.eraseP_filter, Active.name_eq_and_of_pos h]

theorem keep_deactivate_of_neg (h : q n = false) (s : Scope) :
    (s.deactivate n).keep q = s.keep q := by
  obtain ⟨as⟩ := s
  refine Scope.ext ?_
  simp only [keep, deactivate]
  induction as with
  | nil => rfl
  | cons b bs ih =>
    by_cases hb : b.name = n
    · have hq : ¬ q b.name := by simp [hb, h]
      rw [List.eraseP_cons_of_pos (by simpa using hb), List.filter_cons, if_neg hq]
    · rw [List.eraseP_cons_of_neg (by simpa using hb), List.filter_cons, List.filter_cons, ih]

theorem contains_keep (h : q n = true) (s : Scope) : (s.keep q).contains n = s.contains n := by
  simp only [contains, keep, List.any_filter, Bool.and_comm (q _), Active.name_eq_and_of_pos h]

theorem BuiltIn.activate (h : s.BuiltIn) (he : e ∈ Effect.builtins) (args : Arguments) :
    (s.activate e args).BuiltIn := by
  intro a ha
  rcases Active.eq_or_mem_of_mem_put ha with rfl | ha
  · exact he
  · exact h a ha

theorem BuiltIn.deactivate (h : s.BuiltIn) (n : String) : (s.deactivate n).BuiltIn :=
  fun a ha => h a (List.mem_of_mem_eraseP ha)

/-- The effects of other parts make no difference to a part. -/
theorem get_apply_keep (h : s.BuiltIn) (part : Part) (p : Position) (base : Appearance) :
    ((s.keep part.owns).apply p base).get part = (s.apply p base).get part := by
  obtain ⟨as⟩ := s
  -- the two looks differ in other parts as soon as an effect is left out
  suffices hall : ∀ look other : Appearance, look.get part = other.get part →
      ((as.filter (part.owns ·.name)).foldl (Active.apply p) look).get part =
        (as.foldl (Active.apply p) other).get part from hall base base rfl
  induction as with
  | nil => exact fun _ _ hlook => hlook
  | cons a as ih =>
    intro look other hlook
    have hrest : BuiltIn ⟨as⟩ := fun b hb => h b (List.mem_cons_of_mem _ hb)
    have ha : a.effect ∈ Effect.builtins := h a List.mem_cons_self
    cases ho : part.owns a.name with
    | true =>
      rw [List.filter_cons, ho, if_pos rfl, List.foldl_cons, List.foldl_cons]
      exact ih hrest _ _ (Part.get_transform_congr ha ho a.arguments p hlook)
    | false =>
      rw [List.filter_cons, ho, if_neg Bool.false_ne_true, List.foldl_cons]
      exact ih hrest _ _
        (hlook.trans (Part.get_transform_of_not_owns ha ho a.arguments p other).symm)

end Scope

/-! ## Replays -/

/-- What a part shows of a piece: its cluster and that part of its appearance. -/
def Part.view (part : Part) (q : Piece) : String × part.Value := (q.cluster, q.appearance.get part)

/-- What a part shows of a rendering: the clusters in their order, with that part of each. -/
def Rendering.seen (r : Rendering) (part : Part) : List (String × part.Value) :=
  r.glyphs.map fun g => part.view g.toPiece

namespace Replay

theorem map_view_dress {scope : Scope} (h : scope.BuiltIn) (part : Part) (base : Appearance)
    (content : String) :
    (dress base (scope.keep part.owns) content).map part.view =
      (dress base scope content).map part.view := by
  rw [dress, dress, List.map_map, List.map_map]
  exact List.map_congr_left fun p _ => congrArg (p.cluster, ·) (Scope.get_apply_keep h part p base)

/-- A replay of the tags of one part keeps up with a replay of all tags. -/
structure Follows (part : Part) (alone all : Replay) : Prop where
  scope : alone.scope = all.scope.keep part.owns
  builtIn : all.scope.BuiltIn
  text : alone.text = all.text
  pieces : alone.pieces.map part.view = all.pieces.map part.view

namespace Follows

variable {font : Font} {settings : Settings} {part : Part} {alone all next : Replay} {t : Token}

theorem start (part : Part) : Follows part Replay.start Replay.start :=
  ⟨rfl, fun _ ha => absurd ha List.not_mem_nil, rfl, rfl⟩

/-- A token that is left does in the one replay what it does in the other. -/
theorem step_of_keeps (h : Follows part alone all) (ht : part.keeps t = true)
    (hs : all.step ⟨.builtin, font, settings⟩ t = .ok next) :
    ∃ after, alone.step ⟨.builtin, font, settings⟩ t = .ok after ∧ Follows part after next := by
  obtain ⟨content, rfl, rfl⟩ | ⟨name, arguments, effect, rfl, he, rfl⟩ | ⟨name, rfl, hc, rfl⟩ :=
    step_cases hs
  · refine ⟨_, rfl, h.scope, h.builtIn, congrArg (· ++ content) h.text, ?_⟩
    rw [List.map_append, List.map_append, h.pieces, h.scope, map_view_dress h.builtIn]
  · have hname : part.owns effect.name = true := by rwa [Registry.name_of_get? he]
    refine ⟨_, step_of_opening he arguments alone, ?_, ?_, h.text, h.pieces⟩
    · exact (congrArg (Scope.activate · effect _) h.scope).trans
        (Scope.keep_activate_of_pos hname _ _).symm
    · exact h.builtIn.activate (Registry.mem_builtins_of_get? he) _
  · have hopen : alone.scope.contains name := by
      rw [h.scope, Scope.contains_keep ht]
      exact hc
    refine ⟨_, step_of_closing hopen, ?_, h.builtIn.deactivate name, h.text, h.pieces⟩
    exact (congrArg (Scope.deactivate · name) h.scope).trans
      (Scope.keep_deactivate_of_pos ht _).symm

/-- A token that is left out changes nothing that the part can see. -/
theorem of_not_keeps (h : Follows part alone all) (ht : part.keeps t = false)
    (hs : all.step ⟨.builtin, font, settings⟩ t = .ok next) : Follows part alone next := by
  obtain ⟨content, rfl, rfl⟩ | ⟨name, arguments, effect, rfl, he, rfl⟩ | ⟨name, rfl, -, rfl⟩ :=
    step_cases hs
  · cases ht
  · have hname : part.owns effect.name = false := by rwa [Registry.name_of_get? he]
    exact ⟨h.scope.trans (Scope.keep_activate_of_neg hname _ _).symm,
      h.builtIn.activate (Registry.mem_builtins_of_get? he) _, h.text, h.pieces⟩
  · exact ⟨h.scope.trans (Scope.keep_deactivate_of_neg ht _).symm, h.builtIn.deactivate name,
      h.text, h.pieces⟩

theorem run {ts : List Token} (h : Follows part alone all)
    (hr : all.run ⟨.builtin, font, settings⟩ ts = (next, none)) :
    ∃ after, alone.run ⟨.builtin, font, settings⟩ (ts.filter part.keeps) = (after, none) ∧
      Follows part after next := by
  induction ts generalizing alone all with
  | nil =>
    obtain rfl := congrArg Prod.fst hr
    exact ⟨alone, rfl, h⟩
  | cons t ts ih =>
    obtain ⟨between, hs, hr⟩ := run_cons_ok hr
    cases ht : part.keeps t with
    | true =>
      obtain ⟨after, hafter, hbetween⟩ := h.step_of_keeps ht hs
      obtain ⟨last, hlast, hnext⟩ := ih hbetween hr
      refine ⟨last, ?_, hnext⟩
      rw [List.filter_cons, ht, if_pos rfl, Replay.run, hafter]
      exact hlast
    | false =>
      rw [List.filter_cons, ht, if_neg Bool.false_ne_true]
      exact ih (h.of_not_keeps ht hs) hr

end Follows

end Replay

/-! ## The line -/

namespace Font

variable {f g : Font} {ps qs : List Piece}

theorem advance_congr (h : ps.map f.stride = qs.map g.stride) (x : Float32) :
    f.advance x ps = g.advance x qs := by
  have hsum : ∀ (f : Font) (rs : List Piece),
      f.advance x rs = (rs.map f.stride).foldl (· + ·) x := fun _ _ => List.foldl_map.symm
  rw [hsum, hsum, h]

/-- Where pieces stand depends on their strides alone. -/
theorem map_cursor_place_congr (h : ps.map f.stride = qs.map g.stride) (x : Float32) :
    (f.place x ps).map Glyph.cursor = (g.place x qs).map Glyph.cursor := by
  induction ps generalizing qs x with
  | nil =>
    obtain rfl := List.map_eq_nil_iff.1 h.symm
    rfl
  | cons p ps ih =>
    cases qs with
    | nil => cases h
    | cons q qs =>
      obtain ⟨hp, hps⟩ := List.cons.inj h
      rw [place, place, List.map_cons, List.map_cons, hp, ih hps]

/-- Of its appearance, how far a piece moves the cursor depends on the scale alone. -/
theorem map_stride_eq_of_map_view (f : Font)
    (h : ps.map Part.scale.view = qs.map Part.scale.view) : ps.map f.stride = qs.map f.stride := by
  have hstride : ∀ rs : List Piece,
      rs.map f.stride = (rs.map Part.scale.view).map fun v => f.width v.1 * Vec.x v.2 := by
    intro rs
    rw [List.map_map]
    rfl
  rw [hstride, hstride, h]

end Font

theorem Replay.seen_rendering (s : Setup) (r : Replay) (part : Part) :
    (r.rendering s).seen part = r.pieces.map part.view := by
  rw [← r.map_toPiece_rendering s, List.map_map]
  rfl

/-- **Of every part the same is shown when all tags are left out whose effects belong to other
parts.** The text and its clusters stay the same as well; and the tags that change the scale are the
only ones that the cursor depends on. -/
theorem Part.renderInto_filter_keeps {σ : Type} [Sink σ] {font : Font} {settings : Settings}
    {ts : List Token} {sink : σ} {shown : Rendering}
    (h : (Setup.renderInto ⟨.builtin, font, settings⟩ ts sink).1 = .ok shown) (part : Part) :
    ∃ alone,
      (Setup.renderInto ⟨.builtin, font, settings⟩ (ts.filter part.keeps) sink).1 = .ok alone ∧
        alone.text = shown.text ∧ alone.seen part = shown.seen part ∧
        (part = .scale →
          alone.glyphs.map Glyph.cursor = shown.glyphs.map Glyph.cursor ∧
            alone.width = shown.width) := by
  obtain ⟨all, hall, rfl⟩ := Setup.renderInto_ok_iff_run.1 h
  obtain ⟨alone, halone, hfollows⟩ := (Replay.Follows.start part).run hall
  refine ⟨_, Setup.renderInto_ok_iff_run.2 ⟨alone, halone, rfl⟩, hfollows.text, ?_, ?_⟩
  · rw [Replay.seen_rendering, Replay.seen_rendering, hfollows.pieces]
  · rintro rfl
    have hstride := font.map_stride_eq_of_map_view hfollows.pieces
    exact ⟨Font.map_cursor_place_congr hstride 0, Font.advance_congr hstride 0⟩

/-- Tags of three parts that overlap. The scale is opened twice, the second time between tags of
other parts. -/
def crossing : List Token :=
  [.openingWith "rainbow" [], .openingWith "scale" [("scale", 2)], .text "ab",
    .openingWith "alpha" [("alpha", 0.5)], .closing "rainbow", .openingWith "scale" [("x", 4)],
    .openingWith "wave" [("wave", 3)], .text "c", .closing "alpha", .closing "scale", .text "d"]

theorem Part.renderInto_filter_keeps_crossing :
    ∃ shown alone,
      (Setup.renderInto ⟨.builtin, .monospace 8, {}⟩ crossing Batch.empty).1 = .ok shown ∧
        (Setup.renderInto ⟨.builtin, .monospace 8, {}⟩ (crossing.filter Part.scale.keeps)
          Batch.empty).1 = .ok alone ∧
        alone.seen .scale = shown.seen .scale ∧ alone.width = shown.width := by
  have h : (Setup.renderInto ⟨.builtin, .monospace 8, {}⟩ crossing Batch.empty).1 = .ok _ := rfl
  obtain ⟨alone, halone, -, hseen, hline⟩ := renderInto_filter_keeps h .scale
  exact ⟨_, alone, h, halone, hseen, (hline rfl).2⟩

end GlyphEffects
