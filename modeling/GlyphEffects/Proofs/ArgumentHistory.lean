import Mathlib.Data.List.Induction
import GlyphEffects.Proofs.History
import GlyphEffects.Proofs.Keys

/-! # The history of arguments

Arguments are numbers under keys, with a name that may be moved from one key to another. Whatever was
done to them, all that is left of it is the number that each key was given last and the name that
they were given last; in which order the keys came, and which names they had meanwhile, cannot be
told from them.

* `Arguments.Change` is a change of arguments, and `Arguments.after` are the arguments after some
  changes.
* `Arguments.lastNumber?`, `Arguments.keysGiven` and `Arguments.lastName`: what was given.
* `Arguments.get?_after` and `Arguments.name_after` follow the numbers and the name from change to
  change.
* `Arguments.after_eq_iff`: which changes make the same arguments.
* `Arguments.given_law`: **arguments are what was given last.**
-/

namespace GlyphEffects.Markup.Arguments

open GlyphEffects.History

/-! ## Changes -/

/-- A change of arguments: a key is given a number, or all of them are given a name. Arguments are
values, so it is one change to give them a number in place and to make others of them that have it. -/
inductive Change
  | insert (key : String) (x : Float)
  | rename (name : String)

namespace Change

def apply (a : Arguments) : Change → Arguments
  | insert key x => a.insert key x
  | rename name => a.rename name

/-- The key that a change gives a number. -/
def key? : Change → Option String
  | insert key _ => some key
  | rename _ => none

/-- The number that a change gives a key. -/
def number? (k : String) : Change → Option Float
  | insert key x => if k = key then some x else none
  | rename _ => none

/-- The name that a change gives. -/
def name? : Change → Option String
  | insert _ _ => none
  | rename name => some name

variable {a : Arguments} {c : Change} {k : String}

theorem get?_apply : (c.apply a).get? k = (c.number? k).or (a.get? k) := by
  cases c with
  | insert key x =>
    rw [apply, get?_insert, number?]
    by_cases h : k = key
    · rw [if_pos h, if_pos h, Option.some_or]
    · rw [if_neg h, if_neg h, Option.none_or]
  | rename name => rfl

theorem name_apply : (c.apply a).name = c.name?.getD a.name := by
  cases c with
  | insert key x => rfl
  | rename name => rfl

theorem isSome_number?_iff : (c.number? k).isSome ↔ c.key? = some k := by
  cases c with
  | insert key x =>
    by_cases h : k = key
    · simp [number?, key?, h]
    · simp [number?, key?, h, Ne.symm h]
  | rename name => simp [number?, key?]

end Change

/-- The arguments that changes make of no arguments under a name. -/
def after (name : String) (cs : List Change) : Arguments := cs.foldl Change.apply (named name)

/-- The number that a key was given last. -/
def lastNumber? (cs : List Change) (k : String) : Option Float :=
  (cs.filterMap (Change.number? k)).getLast?

/-- The keys that were given numbers, each as often as it was given one. -/
def keysGiven (cs : List Change) : List String := cs.filterMap Change.key?

/-- The name that was given last, and at first the name that the arguments were made with. -/
def lastName (name : String) (cs : List Change) : String :=
  (cs.filterMap Change.name?).getLast?.getD name

variable {name : String} {cs : List Change} {c : Change} {k : String}

theorem after_concat : after name (cs ++ [c]) = c.apply (after name cs) := by
  rw [after, List.foldl_concat]
  rfl

theorem lastNumber?_concat : lastNumber? (cs ++ [c]) k = (c.number? k).or (lastNumber? cs k) :=
  getLast?_filterMap_concat (Change.number? k) cs c

theorem lastName_concat : lastName name (cs ++ [c]) = c.name?.getD (lastName name cs) :=
  getD_getLast?_filterMap_concat Change.name? name cs c

theorem mem_keysGiven_concat :
    k ∈ keysGiven (cs ++ [c]) ↔ c.key? = some k ∨ k ∈ keysGiven cs := by
  simp [keysGiven, or_comm]

theorem isSome_lastNumber?_iff : (lastNumber? cs k).isSome ↔ k ∈ keysGiven cs := by
  induction cs using List.reverseRecOn with
  | nil => simp [lastNumber?, keysGiven]
  | append_singleton cs c ih =>
    rw [lastNumber?_concat, Option.isSome_or, Bool.or_eq_true, ih, Change.isSome_number?_iff,
      mem_keysGiven_concat]

/-! ## From change to change -/

theorem get?_after (name : String) (cs : List Change) (k : String) :
    (after name cs).get? k = lastNumber? cs k := by
  induction cs using List.reverseRecOn with
  | nil => rfl
  | append_singleton cs c ih => rw [after_concat, Change.get?_apply, ih, lastNumber?_concat]

theorem name_after (name : String) (cs : List Change) :
    (after name cs).name = lastName name cs := by
  induction cs using List.reverseRecOn with
  | nil => rfl
  | append_singleton cs c ih => rw [after_concat, Change.name_apply, ih, lastName_concat]

theorem mem_keys_after_iff : k ∈ (after name cs).toList.map Prod.fst ↔ k ∈ keysGiven cs := by
  have hkeys : k ∈ (after name cs).toList.map Prod.fst ↔ ((after name cs).get? k).isSome :=
    Table.mem_keys_iff
  rw [hkeys, get?_after, isSome_lastNumber?_iff]

theorem size_after (name : String) (cs : List Change) :
    (after name cs).size = (keysGiven cs).dedup.length :=
  Table.size_eq_length_dedup fun _ => mem_keys_after_iff

/-! ## What arguments are known by -/

@[ext] theorem ext_get? {a b : Arguments} (hname : a.name = b.name)
    (hget : ∀ k, a.get? k = b.get? k) : a = b :=
  Arguments.ext hname (Table.ext_get? hget)

/-- Changes make the same arguments iff they give the same name last, and each key the same number
last. -/
theorem after_eq_iff {m n : String} {cs ds : List Change} :
    after m cs = after n ds ↔
      lastName m cs = lastName n ds ∧ ∀ k, lastNumber? cs k = lastNumber? ds k := by
  constructor
  · intro h
    refine ⟨?_, fun k => ?_⟩
    · rw [← name_after, ← name_after, h]
    · rw [← get?_after m, ← get?_after n, h]
  · rintro ⟨hname, hnumber⟩
    refine ext_get? ?_ fun k => ?_
    · rw [name_after, name_after, hname]
    · rw [get?_after, get?_after, hnumber k]

theorem openingWith_eq (name : String) (pairs : List (String × Float)) :
    Token.openingWith name pairs =
      .opening name (after name (pairs.map fun p => .insert p.1 p.2)) := by
  rw [Token.openingWith, insertMany, after, List.foldl_map]
  rfl

/-- **Arguments are what was given last.** After any changes a key has the number that it was given
last, and none if it was never given one; the name is the one given last, and the main number is the
one under that name. The list holds the keys that were given numbers, each of them once, in the
order of code points and with its number, and the size is how many they are. Giving a name changes
nothing else, and may as well be done before a key is given a number or afterwards. So changes make
the same arguments if they give the same name last and each key the same number last. An opening tag
is made with its pairs given in their order. -/
theorem given_law (name : String) (cs : List Change) :
    ((∀ k, (after name cs).get? k = lastNumber? cs k ∧
          ((after name cs).get? k = none ↔ k ∉ keysGiven cs)) ∧
        (after name cs).name = lastName name cs ∧
        (after name cs).main? = (after name cs).get? (after name cs).name) ∧
      (((after name cs).toList.map Prod.fst).Pairwise (· < ·) ∧
        (∀ k, k ∈ (after name cs).toList.map Prod.fst ↔ k ∈ keysGiven cs) ∧
        (∀ k x, (k, x) ∈ (after name cs).toList ↔ (after name cs).get? k = some x) ∧
        (after name cs).size = (keysGiven cs).dedup.length) ∧
      (∀ n, (∀ key x, ((after name cs).insert key x).rename n =
            ((after name cs).rename n).insert key x) ∧
          ((after name cs).rename n).name = n ∧
          (∀ k, ((after name cs).rename n).get? k = (after name cs).get? k) ∧
          ((after name cs).rename n).toList = (after name cs).toList ∧
          ((after name cs).rename n).size = (after name cs).size) ∧
      (∀ other ds, after name cs = after other ds ↔
        lastName name cs = lastName other ds ∧ ∀ k, lastNumber? cs k = lastNumber? ds k) ∧
      ∀ pairs, Token.openingWith name pairs =
        .opening name (after name (pairs.map fun p => .insert p.1 p.2)) := by
  refine ⟨⟨fun k => ⟨get?_after name cs k, ?_⟩, name_after name cs, rfl⟩,
    ⟨(after name cs).values.pairwise_keys, fun k => mem_keys_after_iff,
      fun k x => Table.mem_entries_iff, size_after name cs⟩,
    fun n => ⟨fun key x => rename_insert _ key x n, rfl, fun k => get?_rename _ n k, rfl, rfl⟩,
    fun other ds => after_eq_iff, openingWith_eq name⟩
  rw [get?_after, ← isSome_lastNumber?_iff, Bool.not_eq_true, Option.isSome_eq_false_iff,
    Option.isNone_iff_eq_none]

/-- A key keeps its place and its last number, whatever came under other names meanwhile. -/
example (x y z : Float) :
    (after "wave" [.insert "é" x, .insert "z" y, .rename "é", .insert "é" z]).toList =
      [("z", y), ("é", z)] := by cbv

end GlyphEffects.Markup.Arguments
