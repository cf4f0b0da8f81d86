import Mathlib.Data.List.DropRight
import GlyphEffects.Proofs.Keys
import GlyphEffects.Registry

/-! # What a registry holds

Of the effects that are offered under a name the first one is registered, and it stays until it is
removed; then the name is free for the next one. So what a registry finds is a matter of the changes
made to it, and the names that it lists are a matter of which names are taken, whatever happened
before.

* `Registry.Change.perform` tries a change, and `Registry.after` is what changes make of an empty
  registry.
* `Registry.firstOffered?` is the first effect offered under a name since its last removal, and
  `Registry.RegisteredAt` says which change registers an effect.
* `Registry.Accounts` says in what way changes account for a registry, and `Registry.accounts_after`
  that they do.
* `Registry.Shelf`: registries that are made, copied and changed one beside the other.
* `Registry.Shelf.forall₂_accounts`: **every registry is accounted for by its own history.**
-/

namespace GlyphEffects

open GlyphEffects.Markup

namespace Registry

/-! ## Changes that are tried -/

namespace Change

/-- The registry after a change that is tried. One that fails leaves the registry as it was. -/
def perform (r : Registry) (c : Change) : Registry := (c.apply r).toOption.getD r

/-- The effect that a change offers under a name, to be registered if the name is free. -/
def offered? (n : String) : Change → Option Effect
  | add e => if n = e.name then some e else none
  | remove _ => none
  | install => Effect.builtins.find? (·.name = n)

def removes (n : String) : Change → Bool
  | remove name => n = name
  | _ => false

theorem perform_install (r : Registry) : perform r install = r.install := by
  -- by rewriting, as unfolding the two sides would register every built-in effect on both
  rw [perform, apply, Except.toOption, Option.getD_some]

/-- What a change does to a look-up. -/
theorem get?_perform (r : Registry) (c : Change) (n : String) :
    (c.perform r).get? n = if c.removes n then none else (r.get? n).or (c.offered? n) := by
  cases c with
  | add e => exact get?_supply r e n
  | remove name =>
    have hperform : perform r (remove name) = r.remove name := rfl
    rw [hperform, get?_remove]
    by_cases hn : n = name <;> simp [removes, offered?, hn]
  | install =>
    have hkeeps : removes n install = false := rfl
    rw [perform_install, get?_install, hkeeps, if_neg Bool.false_ne_true]
    rfl

theorem removes_eq_false_of_offered? {c : Change} {n : String} {e : Effect}
    (h : c.offered? n = some e) : c.removes n = false := by
  cases c with
  | add _ => rfl
  | remove _ => cases h
  | install => rfl

theorem name_of_offered? {c : Change} {n : String} {e : Effect} (h : c.offered? n = some e) :
    e.name = n := by
  cases c with
  | add d =>
    obtain ⟨hn, hd⟩ := Option.ite_none_right_eq_some.1 h
    rw [hn, ← Option.some.inj hd]
  | remove _ => cases h
  | install => simpa using List.find?_some h

end Change

/-- What changes make of an empty registry. -/
def after (cs : List Change) : Registry := cs.foldl Change.perform empty

theorem after_concat (cs : List Change) (c : Change) : after (cs ++ [c]) = c.perform (after cs) := by
  rw [after, List.foldl_concat]
  rfl

/-! ## The first effect offered -/

/-- The first effect that changes offer under a name since its last removal. -/
def firstOffered? (cs : List Change) (n : String) : Option Effect :=
  ((cs.rtakeWhile (!·.removes n)).filterMap (Change.offered? n)).head?

theorem firstOffered?_concat (cs : List Change) (c : Change) (n : String) :
    firstOffered? (cs ++ [c]) n =
      if c.removes n then none else (firstOffered? cs n).or (c.offered? n) := by
  rw [firstOffered?]
  cases hc : c.removes n with
  | true => rw [List.rtakeWhile_concat_neg _ _ _ (by simp [hc])]; rfl
  | false =>
    rw [List.rtakeWhile_concat_pos _ _ _ (by simp [hc]), if_neg Bool.false_ne_true,
      List.filterMap_append, List.head?_append]
    cases h : c.offered? n <;> simp [h, firstOffered?]

/-- A registry finds the first effect that was offered since the name was removed last. -/
theorem get?_after (cs : List Change) (n : String) : (after cs).get? n = firstOffered? cs n := by
  induction cs using List.reverseRecOn with
  | nil => rfl
  | append_singleton cs c ih => rw [after_concat, Change.get?_perform, firstOffered?_concat, ih]

/-- A second effect of a name has to wait until the first one is removed. -/
example (e d : Arguments → Position → Appearance → Appearance) :
    (after [.add ⟨"glow", e⟩, .add ⟨"glow", d⟩]).get? "glow" = some ⟨"glow", e⟩ ∧
      (after [.add ⟨"glow", e⟩, .remove "glow", .add ⟨"glow", d⟩]).get? "glow" =
        some ⟨"glow", d⟩ :=
  ⟨rfl, rfl⟩

/-- Change `j` registers an effect under a name: the name is free by then, and the change offers the
effect. -/
def RegisteredAt (cs : List Change) (j : Nat) (n : String) (e : Effect) : Prop :=
  (after (cs.take j)).contains n = false ∧ ∃ c, cs[j]? = some c ∧ c.offered? n = some e

/-- The name is taken after each change behind change `j`. -/
def TakenSince (cs : List Change) (j : Nat) (n : String) : Prop :=
  ∀ i, j < i → i ≤ cs.length → (after (cs.take i)).contains n

theorem RegisteredAt.lt_length {cs : List Change} {j : Nat} {n : String} {e : Effect}
    (h : RegisteredAt cs j n e) : j < cs.length := by
  obtain ⟨-, c, hc, -⟩ := h
  exact (List.getElem?_eq_some_iff.1 hc).1

theorem contains_eq_false_iff {r : Registry} {n : String} :
    r.contains n = false ↔ r.get? n = none := by
  rw [contains, Option.isSome_eq_false_iff, Option.isNone_iff_eq_none]

theorem takenSince_concat {cs : List Change} {c : Change} {j : Nat} {n : String}
    (hj : j ≤ cs.length) :
    TakenSince (cs ++ [c]) j n ↔ TakenSince cs j n ∧ (after (cs ++ [c])).contains n := by
  have hearlier : ∀ i ≤ cs.length, (cs ++ [c]).take i = cs.take i := fun i hi =>
    List.take_append_of_le_length hi
  have hall : (cs ++ [c]).take (cs.length + 1) = cs ++ [c] := List.take_of_length_le (by simp)
  constructor
  · intro h
    refine ⟨fun i hji hi => ?_, ?_⟩
    · rw [← hearlier i hi]
      exact h i hji (by rw [List.length_append]; omega)
    · rw [← hall]
      exact h _ (by omega) (by simp)
  · rintro ⟨h, hlast⟩ i hji hi
    rw [List.length_append, List.length_singleton] at hi
    rcases Nat.le_succ_iff.1 hi with hi | rfl
    · rw [hearlier i hi]
      exact h i hji hi
    · rwa [hall]

theorem registeredAt_concat_of_lt {cs : List Change} {c : Change} {j : Nat} {n : String}
    {e : Effect} (hj : j < cs.length) :
    RegisteredAt (cs ++ [c]) j n e ↔ RegisteredAt cs j n e := by
  rw [RegisteredAt, RegisteredAt, List.take_append_of_le_length (Nat.le_of_lt hj),
    List.getElem?_append_left hj]

theorem registeredAt_concat_length {cs : List Change} {c : Change} {n : String} {e : Effect} :
    RegisteredAt (cs ++ [c]) cs.length n e ↔
      (after cs).get? n = none ∧ c.offered? n = some e := by
  rw [RegisteredAt, List.take_left, List.getElem?_concat_length, contains_eq_false_iff]
  simp

/-- A registry finds the effect that was registered when the name was free the last time. -/
theorem get?_after_eq_some_iff {cs : List Change} {n : String} {e : Effect} :
    (after cs).get? n = some e ↔ ∃ j, RegisteredAt cs j n e ∧ TakenSince cs j n := by
  induction cs using List.reverseRecOn with
  | nil =>
    constructor
    · intro h
      cases h
    · rintro ⟨j, hj, -⟩
      exact absurd hj.lt_length (Nat.not_lt_zero j)
  | append_singleton cs c ih =>
    constructor
    · intro h
      have htaken : (after (cs ++ [c])).contains n := by rw [contains, h, Option.isSome_some]
      rw [after_concat, Change.get?_perform, Option.ite_none_left_eq_some,
        Option.or_eq_some_iff] at h
      obtain ⟨-, hold | ⟨hfree, hnew⟩⟩ := h
      · obtain ⟨j, hj, hsince⟩ := ih.1 hold
        exact ⟨j, (registeredAt_concat_of_lt hj.lt_length).2 hj,
          (takenSince_concat (Nat.le_of_lt hj.lt_length)).2 ⟨hsince, htaken⟩⟩
      · refine ⟨cs.length, registeredAt_concat_length.2 ⟨hfree, hnew⟩,
          (takenSince_concat (Nat.le_refl _)).2 ⟨fun i hlt hle => by omega, htaken⟩⟩
    · rintro ⟨j, hj, hsince⟩
      have hle : j ≤ cs.length := by simpa [Nat.lt_succ_iff] using hj.lt_length
      obtain ⟨hbefore, htaken⟩ := (takenSince_concat hle).1 hsince
      rw [contains, after_concat, Change.get?_perform] at htaken
      rw [after_concat, Change.get?_perform]
      rcases Nat.lt_or_eq_of_le hle with hlt | rfl
      · have hold := ih.2 ⟨j, (registeredAt_concat_of_lt hlt).1 hj, hbefore⟩
        split
        next hr => simp [hr] at htaken
        next => rw [hold, Option.some_or]
      · obtain ⟨hfree, hnew⟩ := registeredAt_concat_length.1 hj
        rw [Change.removes_eq_false_of_offered? hnew, hfree, hnew]
        rfl

/-! ## Single changes -/

theorem add_of_contains {r : Registry} {e : Effect} (h : r.contains e.name) :
    r.add e = .error (.duplicateEffect e.name) := if_pos h

theorem add_of_not_contains {r : Registry} {e : Effect} (h : ¬ r.contains e.name) :
    r.add e = .ok (r.put e) := if_neg h

theorem mem_names_iff {r : Registry} {n : String} : n ∈ r.names ↔ r.contains n :=
  Table.mem_keys_iff

theorem names_congr {r s : Registry} (h : ∀ n, r.contains n ↔ s.contains n) :
    r.names = s.names :=
  Table.keys_congr fun n => mem_names_iff.trans ((h n).trans mem_names_iff.symm)

/-- In what way changes account for a registry. -/
structure Accounts (cs : List Change) (r : Registry) : Prop where
  /-- An effect is found under its own name. -/
  name_eq : ∀ n e, r.get? n = some e → e.name = n
  /-- It is the first one that was offered since the name was removed last. -/
  get?_eq : ∀ n, r.get? n = firstOffered? cs n
  /-- It was registered when the name was free the last time. -/
  registered : ∀ n e, r.get? n = some e ↔ ∃ j, RegisteredAt cs j n e ∧ TakenSince cs j n
  contains_eq : ∀ n, r.contains n = (r.get? n).isSome
  /-- The names are listed in the order of code points. -/
  pairwise_names : r.names.Pairwise (· < ·)
  mem_names : ∀ n, n ∈ r.names ↔ r.contains n
  length_names : r.names.length = r.size
  /-- The list depends on nothing but which names are taken. -/
  names_eq : ∀ s : Registry, (∀ n, r.contains n ↔ s.contains n) → r.names = s.names
  /-- Registering an effect under a name that is taken fails, and leaves the registry as it is. -/
  add_taken : ∀ e, r.contains e.name →
    r.add e = .error (.duplicateEffect e.name) ∧ (Change.add e).perform r = r
  /-- Registering an effect under a free name changes what is found under that name. -/
  add_free : ∀ e, ¬ r.contains e.name → ∃ next, r.add e = .ok next ∧
    (Change.add e).perform r = next ∧ next.get? e.name = some e ∧
      ∀ n, n ≠ e.name → next.get? n = r.get? n
  /-- Removing a name changes what is found under that name. -/
  remove : ∀ m, (r.remove m).get? m = none ∧ ∀ n, n ≠ m → (r.remove m).get? n = r.get? n

theorem accounts_after (cs : List Change) : Accounts cs (after cs) where
  name_eq n e h := by
    obtain ⟨j, ⟨-, c, -, hc⟩, -⟩ := get?_after_eq_some_iff.1 h
    exact Change.name_of_offered? hc
  get?_eq n := get?_after cs n
  registered n e := get?_after_eq_some_iff
  contains_eq n := rfl
  pairwise_names := (after cs).effects.pairwise_keys
  mem_names n := mem_names_iff
  length_names := List.length_map _
  names_eq s h := names_congr h
  add_taken e h := by
    refine ⟨add_of_contains h, ?_⟩
    rw [Change.perform, Change.apply, add_of_contains h]
    rfl
  add_free e h := by
    refine ⟨_, add_of_not_contains h, ?_, ?_, fun n hn => ?_⟩
    · rw [Change.perform, Change.apply, add_of_not_contains h]
      rfl
    · rw [get?_put, if_pos rfl]
    · rw [get?_put, if_neg hn]
  remove m := by
    refine ⟨?_, fun n hn => ?_⟩
    · rw [get?_remove, if_pos rfl]
    · rw [get?_remove, if_neg hn]

/-! ## Several registries -/

namespace Shelf

/-- Work on registries that stand on a shelf, each in its place. -/
inductive Step
  | empty
  | builtin
  | copy (i : Nat)
  | change (i : Nat) (c : Change)

/-- A shelf after a step, be it of registries or of what is known about them: what is put there for
an empty registry and for one of the built-in effects, and what a change does. -/
def Step.apply {α : Type} (blank full : α) (change : α → Change → α) (xs : List α) :
    Step → List α
  | empty => xs ++ [blank]
  | builtin => xs ++ [full]
  | copy i => xs ++ xs[i]?.toList
  | .change i c => xs.modify i (change · c)

/-- The registries after some steps. -/
def registries (ss : List Step) : List Registry :=
  ss.foldl (Step.apply Registry.empty Registry.builtin Change.perform) []

/-- The changes that each registry owes its content to. A copy has those of what it was copied
from. -/
def histories (ss : List Step) : List (List Change) :=
  ss.foldl (Step.apply [] [.install] fun cs c => cs ++ [c]) []

theorem Step.map_apply {α β : Type} (f : α → β) {change : α → Change → α} {work : β → Change → β}
    (h : ∀ x c, f (change x c) = work (f x) c) (blank full : α) (xs : List α) (step : Step) :
    (step.apply blank full change xs).map f = step.apply (f blank) (f full) work (xs.map f) := by
  cases step with
  | empty => exact List.map_append
  | builtin => exact List.map_append
  | copy i =>
    rw [apply, apply, List.map_append, List.getElem?_map]
    cases xs[i]? <;> rfl
  | change i c =>
    refine List.ext_getElem? fun j => ?_
    rw [apply, apply, List.getElem?_map, List.getElem?_modify, List.getElem?_modify,
      List.getElem?_map]
    cases xs[j]? <;> by_cases hi : i = j <;> simp [hi, h]

/-- What stands on the shelf is what the histories make. -/
theorem registries_eq (ss : List Step) : registries ss = (histories ss).map after := by
  have hfull : after [.install] = Registry.builtin := by
    rw [after, List.foldl_cons, List.foldl_nil, Change.perform_install, Registry.builtin]
  have hstep : ∀ (hs : List (List Change)) (step : Step),
      step.apply Registry.empty Registry.builtin Change.perform (hs.map after) =
        (step.apply [] [.install] (fun cs c => cs ++ [c]) hs).map after := by
    intro hs step
    rw [step.map_apply after after_concat, hfull]
    rfl
  rw [registries, histories, ← List.foldl_hom (List.map after) hstep, List.map_nil]

/-- **Every registry is accounted for by its own history**, whatever registries were made and copied
beside it and changed in turn. -/
theorem forall₂_accounts (ss : List Step) : List.Forall₂ Accounts (histories ss) (registries ss) := by
  rw [registries_eq, List.forall₂_map_right_iff, List.forall₂_same]
  exact fun cs _ => accounts_after cs

end Shelf

end Registry

end GlyphEffects
