import GlyphEffects.Effect.Builtin
import GlyphEffects.Error
import GlyphEffects.Log

/-! # Registries

A registry holds effects under their names. A name that is taken stays with its effect until that
effect is removed, so the first one registered wins; and installing the built-in effects adds those
whose names are free.

* `Registry.add`, `Registry.remove` and `Registry.install` change a registry.
* `Registry.builtin` is the registry of the built-in effects alone.
* `Registry.Change` is a change as a value, and `Registry.build` makes several.
* `Change.events` and `Registry.buildEvents` are what changes write to the log.
-/

namespace GlyphEffects

/-- Effects under their own names. -/
structure Registry where
  effects : Table Effect
  named : ∀ {n e}, effects.get? n = some e → e.name = n

namespace Registry

def empty : Registry := ⟨.empty, nofun⟩

def get? (r : Registry) (name : String) : Option Effect := r.effects.get? name

def contains (r : Registry) (name : String) : Bool := (r.get? name).isSome

def names (r : Registry) : List String := r.effects.keys

def size (r : Registry) : Nat := r.effects.size

def put (r : Registry) (e : Effect) : Registry where
  effects := r.effects.insert e.name e
  named {n x} h := by
    by_cases hn : n = e.name
    · simp_all
    · exact r.named (by simpa [hn] using h)

/-- Registers an effect, unless its name is taken. -/
def add (r : Registry) (e : Effect) : Except Error Registry :=
  if r.contains e.name then .error (.duplicateEffect e.name) else .ok (r.put e)

/-- Removes the effect of a name, if there is one. -/
def remove (r : Registry) (name : String) : Registry where
  effects := r.effects.erase name
  named {n x} h := by
    by_cases hn : n = name
    · simp [hn] at h
    · exact r.named (by simpa [hn] using h)

/-- Registers an effect if its name is free. -/
def supply (r : Registry) (e : Effect) : Registry := (r.add e).toOption.getD r

/-- Registers the built-in effects whose names are free. -/
def install (r : Registry) : Registry := Effect.builtins.foldl supply r

def builtin : Registry := empty.install

@[simp] theorem get?_empty (n : String) : empty.get? n = none := rfl

theorem name_of_get? {r : Registry} {n : String} {e : Effect} (h : r.get? n = some e) :
    e.name = n := r.named h

@[simp] theorem get?_put (r : Registry) (e : Effect) (n : String) :
    (r.put e).get? n = if n = e.name then some e else r.get? n := Table.get?_insert ..

@[simp] theorem get?_remove (r : Registry) (name n : String) :
    (r.remove name).get? n = if n = name then none else r.get? n := Table.get?_erase ..

@[ext] theorem ext_get? {r s : Registry} (h : ∀ n, r.get? n = s.get? n) : r = s := by
  cases r with
  | mk t ht =>
    cases s with
    | mk u hu =>
      cases Table.ext_get? h
      rfl

theorem get?_supply (r : Registry) (e : Effect) (n : String) :
    (r.supply e).get? n = (r.get? n).or (if n = e.name then some e else none) := by
  unfold supply add contains
  by_cases hn : n = e.name
  · subst hn
    cases h : r.get? e.name <;> simp [Except.toOption, h]
  · cases h : r.get? e.name <;> simp [Except.toOption, hn]

theorem get?_foldl_supply (r : Registry) (es : List Effect) (n : String) :
    (es.foldl supply r).get? n = (r.get? n).or (es.find? (·.name = n)) := by
  induction es generalizing r with
  | nil => simp
  | cons e es ih =>
    rw [List.foldl_cons, ih, get?_supply, Option.or_assoc, List.find?_cons]
    by_cases h : e.name = n
    · simp [h]
    · simp [h, Ne.symm h]

/-- The built-in effects are found where no effect of their name was before. -/
theorem get?_install (r : Registry) (n : String) :
    r.install.get? n = (r.get? n).or (Effect.builtins.find? (·.name = n)) :=
  get?_foldl_supply r Effect.builtins n

/-! ## Changes -/

/-- A change of a registry. -/
inductive Change
  | add (e : Effect)
  | remove (name : String)
  | install

namespace Change

def apply (r : Registry) : Change → Except Error Registry
  | add e => r.add e
  | remove name => .ok (r.remove name)
  | install => .ok r.install

/-- What installing an effect writes to the log. -/
def supplied (r : Registry) (e : Effect) : Event :=
  if r.contains e.name then .kept (.duplicateEffect e.name) else .registered e.name

/-- What a change writes to the log. -/
def events (r : Registry) : Change → List Event
  | add e => if r.contains e.name then [] else [.registered e.name]
  | remove name => if r.contains name then [.removed name] else []
  | install => Effect.builtins.map (supplied r)

end Change

/-- Makes changes in their order, up to the first that fails. -/
def build (r : Registry) (cs : List Change) : Except Error Registry := cs.foldlM Change.apply r

/-- What changes in their order write to the log, up to the first that fails. -/
def buildEvents (r : Registry) : List Change → List Event
  | [] => []
  | c :: cs =>
    c.events r ++
      match c.apply r with
      | .ok next => buildEvents next cs
      | .error _ => []

end Registry

end GlyphEffects
