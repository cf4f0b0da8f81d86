import GlyphEffects.Proofs.Reference

/-! # The history of a scope

A scope that has been changed any number of times is determined by what was done. Its names are
those that the tags asking for the changes leave active, in the order in which their stays begin; an
effect is used with the arguments given last, and it may be another effect of that name each time.

* `Scope.Change` is a change of a scope, `Change.tag` is the tag that asks for it, and `Scope.after`
  is the scope after some changes.
* `Scope.lastActive?` and `Scope.lastTransform`: what was switched on last under a name.
* `Scope.names_after_take` and `Scope.find?_after_take` follow the names and the effects from change
  to change.
* `Scope.after_law`: **a scope is a map in the order of insertion.**
-/

namespace GlyphEffects.Scope

open GlyphEffects.Markup GlyphEffects.History

/-! ## Changes -/

/-- A change of a scope. The arguments may carry any name. -/
inductive Change
  | activate (effect : Effect) (arguments : Arguments)
  | switchOff (name : String)

namespace Change

def apply (s : Scope) : Change → Scope
  | activate effect arguments => s.activate effect arguments
  | switchOff name => (s.switchOff name).2

/-- The tag that asks for a change. -/
def tag : Change → Token
  | activate effect arguments => .opening effect.name arguments
  | switchOff name => .closing name

/-- What a change switches on under a name. -/
def active? (n : String) : Change → Option Active
  | activate effect arguments => if effect.name = n then some ⟨effect, arguments⟩ else none
  | switchOff _ => none

end Change

/-- The scope after some changes. -/
def after (cs : List Change) : Scope := cs.foldl Change.apply empty

/-- What was switched on last under a name. -/
def lastActive? (cs : List Change) (n : String) : Option Active :=
  (cs.filterMap (Change.active? n)).getLast?

/-- What is done by the effect that was switched on last under a name, with the arguments that it
was given then. -/
def lastTransform (cs : List Change) (p : Position) (n : String) : Appearance → Appearance :=
  match lastActive? cs n with
  | some a => a.effect.transform a.arguments p
  | none => id

variable {cs : List Change} {p : Nat} {n : String}

theorem getElem?_map_tag (hp : p < cs.length) : (cs.map Change.tag)[p]? = some cs[p].tag := by
  rw [List.getElem?_map, List.getElem?_eq_getElem hp, Option.map_some]

theorem after_take_succ (hp : p < cs.length) :
    after (cs.take (p + 1)) = cs[p].apply (after (cs.take p)) := by
  rw [List.take_add_one, List.getElem?_eq_getElem hp, Option.toList_some, after, List.foldl_concat]
  rfl

theorem lastActive?_take_succ (hp : p < cs.length) :
    lastActive? (cs.take (p + 1)) n = (cs[p].active? n).or (lastActive? (cs.take p) n) := by
  rw [List.take_add_one, List.getElem?_eq_getElem hp, Option.toList_some]
  exact getLast?_filterMap_concat (Change.active? n) (cs.take p) cs[p]

/-! ## From change to change -/

theorem names_after_take (hp : p ≤ cs.length) :
    (after (cs.take p)).names = activeNames (cs.map Change.tag) p := by
  induction p with
  | zero => rfl
  | succ p ih =>
    have ih := ih (Nat.le_of_succ_le hp)
    have htag := getElem?_map_tag hp
    rw [after_take_succ hp]
    cases hc : cs[p] with
    | activate effect arguments =>
      rw [hc] at htag
      rw [activeNames_succ_of_opening htag, ← ih]
      exact names_activate _ effect arguments
    | switchOff name =>
      rw [hc] at htag
      rw [activeNames_succ_of_closing htag, ← ih, Change.apply, switchOff_eq]
      exact names_deactivate _ name

/-- Switching on an effect that is on moves nothing, and one that was off comes last. -/
example (e : Arguments → Position → Appearance → Appearance) (args : Arguments) :
    (after [.activate ⟨"a", e⟩ args, .activate ⟨"b", e⟩ args, .activate ⟨"a", e⟩ args]).names =
        ["a", "b"] ∧
      (after [.activate ⟨"a", e⟩ args, .activate ⟨"b", e⟩ args, .switchOff "a",
        .activate ⟨"a", e⟩ args]).names = ["b", "a"] :=
  ⟨rfl, rfl⟩

/-- As long as a name is active, it has the effect and the arguments that it was given last. -/
theorem find?_after_take (hp : p ≤ cs.length) (h : ActiveBefore (cs.map Change.tag) p n) :
    (after (cs.take p)).find? n = lastActive? (cs.take p) n := by
  induction p with
  | zero =>
    obtain ⟨j, hj, -⟩ := h
    exact absurd hj (Nat.not_lt_zero j)
  | succ p ih =>
    have ih := ih (Nat.le_of_succ_le hp)
    have htag := getElem?_map_tag hp
    rw [after_take_succ hp, lastActive?_take_succ hp]
    cases hc : cs[p] with
    | activate effect arguments =>
      rw [hc] at htag
      rw [Change.apply, Change.active?, find?_activate]
      split
      next => rfl
      next hm =>
        have hold : ActiveBefore (cs.map Change.tag) p n := by
          simpa [Closes, Opens, htag, Change.tag, hm] using activeBefore_succ.1 h
        rw [Option.none_or]
        exact ih hold
    | switchOff name =>
      rw [hc] at htag
      have hold : ¬ Closes (cs.map Change.tag) p n ∧ ActiveBefore (cs.map Change.tag) p n := by
        simpa [Opens, htag, Change.tag, and_comm] using activeBefore_succ.1 h
      have hm : n ≠ name := by
        rintro rfl
        exact hold.1 htag
      rw [Change.apply, Change.active?, switchOff_eq, find?_deactivate_of_ne hm, Option.none_or]
      exact ih hold.2

theorem names_after (cs : List Change) :
    (after cs).names = activeNames (cs.map Change.tag) cs.length := by
  have h := names_after_take (Nat.le_refl cs.length)
  rwa [List.take_length] at h

theorem nodup_names_after (cs : List Change) : (after cs).names.Nodup := by
  rw [names_after]
  exact nodup_activeNames _ _

theorem mem_names_after_iff :
    n ∈ (after cs).names ↔ ActiveBefore (cs.map Change.tag) cs.length n := by
  rw [names_after, mem_activeNames_iff]

theorem find?_after (h : n ∈ (after cs).names) : (after cs).find? n = lastActive? cs n := by
  have hfind := find?_after_take (Nat.le_refl cs.length) (mem_names_after_iff.1 h)
  rwa [List.take_length] at hfind

/-! ## Looking up and using the effects -/

theorem isSome_find?_iff {s : Scope} : (s.find? n).isSome ↔ n ∈ s.names := by
  simp [find?, names]

theorem foldl_comp_apply {α : Type} (gs : List (α → α)) (f : α → α) (x : α) :
    gs.foldl (fun f g => g ∘ f) f x = gs.foldl (fun x g => g x) (f x) := by
  induction gs generalizing f with
  | nil => rfl
  | cons g gs ih => exact ih (g ∘ f)

/-- Together the active effects do what was switched on last under their names, one after the
other. -/
theorem apply_after (cs : List Change) (p : Position) :
    (after cs).apply p = ((after cs).names.map (lastTransform cs p)).foldl (fun f g => g ∘ f) id := by
  have hlast : (after cs).names.map (lastTransform cs p) =
      (after cs).actives.map fun a look => a.apply p look := by
    rw [names, List.map_map]
    refine List.map_congr_left fun a ha => ?_
    have hfind := find?_after (List.mem_map_of_mem ha)
    rw [find?_name (nodup_names_after cs) ha] at hfind
    rw [Function.comp_apply, lastTransform, ← hfind]
    rfl
  funext look
  rw [foldl_comp_apply, hlast, List.foldl_map]
  rfl

/-- **A scope is a map in the order of insertion.** After any changes its names are distinct; they
are those that were switched on and not off again since, in the order in which their stays begin:
switching on an effect that is on moves no name, switching one off takes its name out of the others,
and a name that comes again comes last. All look-ups agree with the names; what is found is what was
switched on last; switching off tells whether the name was there; and the effects are used from the
first name to the last, each as it was switched on last. -/
theorem after_law (cs : List Change) :
    ((after cs).names.Nodup ∧
        (after cs).names = activeNames (cs.map Change.tag) cs.length ∧
        ∀ n, n ∈ (after cs).names ↔ ActiveBefore (cs.map Change.tag) cs.length n) ∧
      ((∀ e args, ((after cs).activate e args).names =
          if e.name ∈ (after cs).names then (after cs).names else (after cs).names ++ [e.name]) ∧
        ∀ n, ((after cs).switchOff n).1 = decide (n ∈ (after cs).names) ∧
          ((after cs).switchOff n).2.names = (after cs).names.filter (· ≠ n)) ∧
      ((after cs).size = (after cs).names.length ∧
        ((after cs).isEmpty ↔ (after cs).names = []) ∧
        ∀ n, ((after cs).contains n ↔ n ∈ (after cs).names) ∧
          (((after cs).arguments? n).isSome ↔ n ∈ (after cs).names)) ∧
      (∀ n ∈ (after cs).names, ∃ a, lastActive? cs n = some a ∧
        (after cs).arguments? n = some a.arguments) ∧
      ∀ p, (after cs).apply p =
        ((after cs).names.map (lastTransform cs p)).foldl (fun f g => g ∘ f) id := by
  refine ⟨⟨nodup_names_after cs, names_after cs, fun n => mem_names_after_iff⟩,
    ⟨fun e args => names_activate _ e args, fun n => ?_⟩, ⟨?_, ?_, fun n => ?_⟩, fun n hn => ?_,
    apply_after cs⟩
  · rw [switchOff_eq, names_deactivate, (nodup_names_after cs).erase_eq_filter]
    refine ⟨Bool.eq_iff_iff.2 (contains_iff_mem_names.trans decide_eq_true_iff.symm), ?_⟩
    exact List.filter_congr fun m _ => by by_cases hm : m = n <;> simp [hm]
  · exact (List.length_map _).symm
  · simp [isEmpty, names]
  · exact ⟨contains_iff_mem_names, by rw [arguments?, Option.isSome_map, isSome_find?_iff]⟩
  · obtain ⟨a, ha⟩ := Option.isSome_iff_exists.1 (isSome_find?_iff.2 hn)
    refine ⟨a, (find?_after hn).symm.trans ha, ?_⟩
    rw [arguments?, ha]
    rfl

end GlyphEffects.Scope
