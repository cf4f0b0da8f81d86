import GlyphEffects.Table

/-! # Arguments

The arguments of a tag are numbers with names, and the arguments as a whole have a name too, which
is that of the tag. The number under that very name is the main one: in a tag that opens `wave=3`
it is 3.

* `Arguments.named` are no arguments under a name.
* `Arguments.insert` gives an argument a number, `Arguments.rename` gives all of them a name, and
  `Arguments.ownedBy` sees to it that they carry a name.
* `Arguments.get?` and `Arguments.main?` look numbers up; `Arguments.get?_insertMany` says what is
  found after several were given.
-/

namespace GlyphEffects.Markup

/-- The numbers given to a tag, and the name whose number is the main one. -/
@[ext] structure Arguments where
  name : String
  values : Table Float

namespace Arguments

/-- No arguments, under a name. -/
def named (name : String) : Arguments := ⟨name, .empty⟩

def get? (a : Arguments) (key : String) : Option Float := a.values.get? key

/-- The number of a key, or the given one if the key has none. -/
def getD (a : Arguments) (key : String) (default : Float) : Float := (a.get? key).getD default

/-- The main number, which stands under the name of the arguments. -/
def main? (a : Arguments) : Option Float := a.get? a.name

/-- Gives a key a number; the last one given counts. -/
def insert (a : Arguments) (key : String) (x : Float) : Arguments :=
  { a with values := a.values.insert key x }

def insertMany (a : Arguments) (pairs : List (String × Float)) : Arguments :=
  pairs.foldl (fun a p => a.insert p.1 p.2) a

/-- The same numbers under another name. -/
def rename (a : Arguments) (name : String) : Arguments := { a with name }

/-- The arguments as a tag of some name has them: they are taken as they are if they carry that
name, and are given it otherwise. -/
def ownedBy (a : Arguments) (name : String) : Arguments :=
  if a.name = name then a else a.rename name

def size (a : Arguments) : Nat := a.values.size

/-- The keys with their numbers, in increasing order of the keys. -/
def toList (a : Arguments) : List (String × Float) := a.values.entries

@[simp] theorem get?_named (name key : String) : (named name).get? key = none := rfl

@[simp] theorem get?_insert (a : Arguments) (key : String) (x : Float) (k : String) :
    (a.insert key x).get? k = if k = key then some x else a.get? k :=
  Table.get?_insert a.values key x k

@[simp] theorem get?_rename (a : Arguments) (name key : String) :
    (a.rename name).get? key = a.get? key := rfl

theorem rename_rename (a : Arguments) (m n : String) : (a.rename m).rename n = a.rename n := rfl

theorem rename_name (a : Arguments) : a.rename a.name = a := rfl

theorem ownedBy_eq_rename (a : Arguments) (name : String) : a.ownedBy name = a.rename name := by
  unfold ownedBy
  split
  next h => rw [← h, rename_name]
  next => rfl

theorem rename_insert (a : Arguments) (key : String) (x : Float) (name : String) :
    (a.insert key x).rename name = (a.rename name).insert key x := rfl

/-- Of several numbers given to a key, the last one counts. -/
theorem get?_insertMany (a : Arguments) (pairs : List (String × Float)) (key : String) :
    (a.insertMany pairs).get? key =
      ((pairs.filter (·.1 = key)).getLast?.map Prod.snd).or (a.get? key) := by
  induction pairs generalizing a with
  | nil => rfl
  | cons p pairs ih =>
    have hstep : (a.insertMany (p :: pairs)).get? key =
        ((a.insert p.1 p.2).insertMany pairs).get? key := rfl
    rw [hstep, ih, get?_insert]
    by_cases h : p.1 = key
    · rw [List.filter_cons_of_pos (by simpa using h), List.getLast?_cons, if_pos h.symm]
      cases (pairs.filter (·.1 = key)).getLast? <;> rfl
    · rw [List.filter_cons_of_neg (by simpa using h), if_neg (Ne.symm h)]

theorem name_insertMany (a : Arguments) (pairs : List (String × Float)) :
    (a.insertMany pairs).name = a.name := by
  induction pairs generalizing a with
  | nil => rfl
  | cons p pairs ih => exact ih (a.insert p.1 p.2)

end Arguments

end GlyphEffects.Markup
