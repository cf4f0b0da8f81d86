/-! # Tables

A table gives values to names. It is kept as a list of entries in increasing order of their names,
the order being that of code points; so a table lists its names in one order whatever the order of
the changes that made it, and two tables that answer every name alike are equal.

* `Table.get?`, `Table.insert` and `Table.erase` look up, give and take away a value.
* `Table.get?_insert` and `Table.get?_erase` say what a look-up finds after a change.
* `Table.ext_get?` is extensionality.
-/

namespace GlyphEffects

/-- A finite map from names to values, in increasing order of the names. -/
structure Table (α : Type u) where
  entries : List (String × α)
  sorted : entries.Pairwise fun a b => a.1 < b.1

namespace Table

variable {α : Type u}

/-! ## Lists of entries -/

/-- Puts an entry in its place, over an entry of the same name. -/
def put (k : String) (v : α) : List (String × α) → List (String × α)
  | [] => [(k, v)]
  | e :: es =>
    if k < e.1 then (k, v) :: e :: es
    else if e.1 < k then e :: put k v es
    else (k, v) :: es

private theorem eq_of_not_lt {a b : String} (h : ¬ a < b) (g : ¬ b < a) : a = b :=
  String.le_antisymm (String.not_lt.1 g) (String.not_lt.1 h)

private theorem ne_of_lt {a b : String} (h : a < b) : a ≠ b := fun e =>
  String.lt_irrefl b (e ▸ h)

theorem mem_put {k : String} {v : α} {e : String × α} {es : List (String × α)}
    (h : e ∈ put k v es) : e = (k, v) ∨ e ∈ es := by
  induction es with
  | nil => simpa [put] using h
  | cons d ds ih =>
    unfold put at h
    split at h
    · simpa using h
    · split at h
      · rcases List.mem_cons.1 h with h | h
        · simp [h]
        · rcases ih h with h | h <;> simp [h]
      · rcases List.mem_cons.1 h with h | h <;> simp [h]

theorem sorted_put (k : String) (v : α) {es : List (String × α)}
    (h : es.Pairwise fun a b => a.1 < b.1) : (put k v es).Pairwise fun a b => a.1 < b.1 := by
  induction es with
  | nil => simp [put]
  | cons d ds ih =>
    obtain ⟨hd, hds⟩ := List.pairwise_cons.1 h
    unfold put
    split
    next hk =>
      refine List.pairwise_cons.2 ⟨fun e he => ?_, h⟩
      rcases List.mem_cons.1 he with rfl | he
      · exact hk
      · exact String.lt_trans hk (hd e he)
    next hk =>
      split
      next hk' =>
        refine List.pairwise_cons.2 ⟨fun e he => ?_, ih hds⟩
        rcases mem_put he with rfl | he
        · exact hk'
        · exact hd e he
      next hk' =>
        refine List.pairwise_cons.2 ⟨fun e he => ?_, hds⟩
        rw [eq_of_not_lt hk hk']
        exact hd e he

/-- The value of a name in a list of entries. -/
def valueOf (n : String) : List (String × α) → Option α
  | [] => none
  | e :: es => if n = e.1 then some e.2 else valueOf n es

theorem valueOf_eq_none_of_lt {n : String} {es : List (String × α)} (h : ∀ e ∈ es, n < e.1) :
    valueOf n es = none := by
  induction es with
  | nil => rfl
  | cons e es ih =>
    simp [valueOf, ne_of_lt (h e (by simp)), ih fun x hx => h x (by simp [hx])]

theorem valueOf_put (k : String) (v : α) (es : List (String × α)) (n : String) :
    valueOf n (put k v es) = if n = k then some v else valueOf n es := by
  induction es with
  | nil => rfl
  | cons d ds ih =>
    unfold put
    split
    next hk => rfl
    next hk =>
      split
      next hk' =>
        simp only [valueOf, ih]
        by_cases hn : n = d.1
        · simp [hn, ne_of_lt hk']
        · simp [hn]
      next hk' =>
        simp only [valueOf, eq_of_not_lt hk hk']
        by_cases hn : n = d.1 <;> simp [hn]

theorem valueOf_filter (k : String) (es : List (String × α)) (n : String) :
    valueOf n (es.filter (·.1 ≠ k)) = if n = k then none else valueOf n es := by
  induction es with
  | nil => simp [valueOf]
  | cons e es ih =>
    by_cases he : e.1 = k
    · by_cases hn : n = k <;> simp_all [valueOf]
    · by_cases hn : n = e.1 <;> simp_all [valueOf]

theorem eq_of_valueOf_eq {xs ys : List (String × α)} (hx : xs.Pairwise fun a b => a.1 < b.1)
    (hy : ys.Pairwise fun a b => a.1 < b.1) (h : ∀ n, valueOf n xs = valueOf n ys) : xs = ys := by
  induction xs generalizing ys with
  | nil =>
    cases ys with
    | nil => rfl
    | cons e es => simpa [valueOf] using h e.1
  | cons d ds ih =>
    cases ys with
    | nil => simpa [valueOf] using h d.1
    | cons e es =>
      obtain ⟨hd, hds⟩ := List.pairwise_cons.1 hx
      obtain ⟨he, hes⟩ := List.pairwise_cons.1 hy
      have hne : d.1 = e.1 := by
        refine eq_of_not_lt (fun hlt => ?_) fun hlt => ?_
        · have hn := h d.1
          simp [valueOf, ne_of_lt hlt,
            valueOf_eq_none_of_lt fun x hx => String.lt_trans hlt (he x hx)] at hn
        · have hn := h e.1
          simp [valueOf, ne_of_lt hlt,
            valueOf_eq_none_of_lt fun x hx => String.lt_trans hlt (hd x hx)] at hn
      have hv : d.2 = e.2 := by simpa [valueOf, hne] using h d.1
      refine congr (congrArg _ (Prod.ext hne hv)) (ih hds hes fun n => ?_)
      by_cases hn : n = d.1
      · subst hn
        rw [valueOf_eq_none_of_lt hd, valueOf_eq_none_of_lt (hne ▸ he)]
      · simpa [valueOf, hn, ← hne] using h n

/-! ## Tables -/

def empty : Table α := ⟨[], .nil⟩

def get? (t : Table α) (k : String) : Option α := valueOf k t.entries

/-- Gives a value to a name, in the place of the value it had. -/
def insert (t : Table α) (k : String) (v : α) : Table α :=
  ⟨put k v t.entries, sorted_put k v t.sorted⟩

def erase (t : Table α) (k : String) : Table α :=
  ⟨t.entries.filter (·.1 ≠ k), t.sorted.filter _⟩

/-- The names that have a value, in increasing order. -/
def keys (t : Table α) : List String := t.entries.map Prod.fst

def size (t : Table α) : Nat := t.entries.length

@[simp] theorem get?_insert (t : Table α) (k : String) (v : α) (n : String) :
    (t.insert k v).get? n = if n = k then some v else t.get? n := valueOf_put k v t.entries n

@[simp] theorem get?_erase (t : Table α) (k n : String) :
    (t.erase k).get? n = if n = k then none else t.get? n := valueOf_filter k t.entries n

@[ext] theorem ext_get? {s t : Table α} (h : ∀ n, s.get? n = t.get? n) : s = t := by
  cases s with
  | mk xs hx =>
    cases t with
    | mk ys hy =>
      cases eq_of_valueOf_eq hx hy h
      rfl

end Table

end GlyphEffects
