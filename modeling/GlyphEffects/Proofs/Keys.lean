import Mathlib.Data.List.Dedup
import Mathlib.Data.List.Nodup
import GlyphEffects.Table

/-! # Keys

What is kept under distinct keys is found under its own key. The keys of a table are distinct and
stand in increasing order, so that a table lists them alike whatever the order in which it was filled.

* `find?_key`: a search by key finds the member that has the key.
* `Table.mem_keys_iff` and `Table.pairwise_keys`: which keys a table lists, and in which order.
* `Table.mem_entries_iff`: the entries are what a search finds.
* `Table.keys_congr`: tables with the same keys list them alike.
-/

namespace GlyphEffects

theorem find?_key {α β : Type} [DecidableEq β] {key : α → β} {xs : List α}
    (h : (xs.map key).Nodup) {x : α} (hx : x ∈ xs) : xs.find? (key · = key x) = some x := by
  cases hf : xs.find? (key · = key x) with
  | none => exact absurd (decide_eq_true rfl) (List.find?_eq_none.1 hf x hx)
  | some y =>
    have hkey : key y = key x := by simpa using List.find?_some hf
    rw [List.inj_on_of_nodup_map h (List.mem_of_find?_eq_some hf) hx hkey]

namespace Table

variable {α : Type u} {s t : Table α} {k : String}

theorem isSome_valueOf_iff {es : List (String × α)} :
    (valueOf k es).isSome ↔ k ∈ es.map Prod.fst := by
  induction es with
  | nil => simp [valueOf]
  | cons e es ih =>
    rw [valueOf, List.map_cons, List.mem_cons, ← ih]
    by_cases h : k = e.1 <;> simp [h]

theorem mem_keys_iff : k ∈ t.keys ↔ (t.get? k).isSome := isSome_valueOf_iff.symm

theorem pairwise_keys (t : Table α) : t.keys.Pairwise (· < ·) := List.pairwise_map.2 t.sorted

theorem nodup_keys (t : Table α) : t.keys.Nodup := by
  refine t.pairwise_keys.imp ?_
  rintro a _ hlt rfl
  exact String.lt_irrefl a hlt

theorem valueOf_eq_some_iff {v : α} {es : List (String × α)}
    (h : es.Pairwise fun a b => a.1 < b.1) : valueOf k es = some v ↔ (k, v) ∈ es := by
  induction es with
  | nil => simp [valueOf]
  | cons e es ih =>
    obtain ⟨he, hes⟩ := List.pairwise_cons.1 h
    rw [valueOf, List.mem_cons, ← ih hes]
    by_cases hk : k = e.1
    · -- the entries behind this one have greater names
      have hrest : valueOf k es = none := valueOf_eq_none_of_lt fun x hx => hk ▸ he x hx
      simp [hk, hk ▸ hrest, Prod.ext_iff, eq_comm]
    · simp [hk, Prod.ext_iff]

/-- The entries are what a search finds. -/
theorem mem_entries_iff {v : α} : (k, v) ∈ t.entries ↔ t.get? k = some v :=
  (valueOf_eq_some_iff t.sorted).symm

/-- A table is as large as the number of its keys, however often they are listed elsewhere. -/
theorem size_eq_length_dedup {ks : List String} (h : ∀ k, k ∈ t.keys ↔ k ∈ ks) :
    t.size = ks.dedup.length := by
  have hperm : t.keys.Perm ks.dedup :=
    (List.perm_ext_iff_of_nodup t.nodup_keys ks.nodup_dedup).2 fun k =>
      (h k).trans List.mem_dedup.symm
  rw [← hperm.length_eq]
  exact (List.length_map _).symm

theorem keys_congr (h : ∀ k, k ∈ s.keys ↔ k ∈ t.keys) : s.keys = t.keys := by
  refine List.Perm.eq_of_pairwise (fun a b _ _ hab hba => ?_) s.pairwise_keys t.pairwise_keys
    ((List.perm_ext_iff_of_nodup s.nodup_keys t.nodup_keys).2 h)
  exact absurd hba (String.lt_asymm hab)

end Table

end GlyphEffects
