import GlyphEffects.Effect

/-! # Scopes

A scope holds the effects whose tags are open, in the order in which they are used. Switching on
an effect that is on already gives it new arguments and leaves it in its place; whatever the number
of opening tags, one closing tag switches it off.

* `Scope.activate` and `Scope.deactivate` switch an effect on and off; `Scope.switchOff` also says
  whether it was on.
* `Scope.apply` lets all active effects change an appearance, the oldest first.
* `Scope.names_activate` and `Scope.names_deactivate` say what becomes of the names, and
  `Scope.find?_activate` and `Scope.find?_deactivate_of_ne` what a look-up finds afterwards.
-/

namespace GlyphEffects

open GlyphEffects.Markup

/-- An effect with the arguments of the tag that switched it on. -/
structure Active where
  effect : Effect
  arguments : Arguments

namespace Active

def name (a : Active) : String := a.effect.name

/-- Lets the effect change an appearance. -/
def apply (p : Position) (look : Appearance) (a : Active) : Appearance :=
  a.effect.transform a.arguments p look

/-- Puts an active effect where one of its name stands, or else at the end. -/
def put (a : Active) : List Active → List Active
  | [] => [a]
  | b :: bs => if b.name = a.name then a :: bs else b :: put a bs

end Active

/-- The active effects, in the order in which they are used. -/
@[ext] structure Scope where
  actives : List Active

namespace Scope

def empty : Scope := ⟨[]⟩

def activate (s : Scope) (effect : Effect) (arguments : Arguments) : Scope :=
  ⟨Active.put ⟨effect, arguments⟩ s.actives⟩

def deactivate (s : Scope) (name : String) : Scope := ⟨s.actives.eraseP (·.name = name)⟩

/-- Switches an effect off, and says whether it was on. -/
def switchOff (s : Scope) (name : String) : Bool × Scope :=
  match s.actives.findIdx? (·.name = name) with
  | some i => (true, ⟨s.actives.eraseIdx i⟩)
  | none => (false, s)

def names (s : Scope) : List String := s.actives.map Active.name

def contains (s : Scope) (name : String) : Bool := s.actives.any (·.name = name)

def find? (s : Scope) (name : String) : Option Active := s.actives.find? (·.name = name)

def arguments? (s : Scope) (name : String) : Option Arguments :=
  (s.find? name).map Active.arguments

def size (s : Scope) : Nat := s.actives.length

def isEmpty (s : Scope) : Bool := s.actives.isEmpty

/-- Lets all active effects change an appearance, the first one first. -/
def apply (s : Scope) (p : Position) (look : Appearance) : Appearance :=
  s.actives.foldl (Active.apply p) look

theorem contains_iff_mem_names {s : Scope} {name : String} :
    s.contains name ↔ name ∈ s.names := by
  simp [contains, names]

theorem switchOff_eq (s : Scope) (name : String) :
    s.switchOff name = (s.contains name, s.deactivate name) := by
  rw [switchOff, contains, deactivate, List.eraseP_eq_eraseIdx, ← List.findIdx?_isSome]
  cases s.actives.findIdx? (·.name = name) <;> rfl

theorem names_activate (s : Scope) (e : Effect) (args : Arguments) :
    (s.activate e args).names =
      if e.name ∈ s.names then s.names else s.names ++ [e.name] := by
  obtain ⟨as⟩ := s
  simp only [activate, names]
  induction as with
  | nil => rfl
  | cons b bs ih =>
    by_cases h : b.effect.name = e.name
    · simp [Active.put, Active.name, h]
    · have h' : ¬ e.name = b.effect.name := fun g => h g.symm
      by_cases m : e.name ∈ bs.map Active.name <;>
        simp_all [Active.put, Active.name]

theorem names_deactivate (s : Scope) (name : String) :
    (s.deactivate name).names = s.names.erase name := by
  obtain ⟨as⟩ := s
  simp only [deactivate, names]
  induction as with
  | nil => rfl
  | cons b bs ih =>
    by_cases h : b.name = name
    · simp [h]
    · simp [h, ih]

theorem find?_activate (s : Scope) (e : Effect) (args : Arguments) (name : String) :
    (s.activate e args).find? name = if e.name = name then some ⟨e, args⟩ else s.find? name := by
  obtain ⟨as⟩ := s
  simp only [activate, find?]
  induction as with
  | nil => by_cases h : e.name = name <;> simp [Active.put, Active.name, h]
  | cons b bs ih =>
    by_cases h : b.effect.name = e.name <;> by_cases g : e.name = name <;>
      simp_all [Active.put, Active.name, List.find?_cons]

theorem find?_deactivate_of_ne {s : Scope} {name n : String} (h : n ≠ name) :
    (s.deactivate name).find? n = s.find? n := by
  obtain ⟨as⟩ := s
  simp only [deactivate, find?]
  induction as with
  | nil => rfl
  | cons b bs ih =>
    by_cases hb : b.name = name
    · have hn : b.name ≠ n := fun e => h (e.symm.trans hb)
      rw [List.eraseP_cons_of_pos (by simpa using hb), List.find?_cons_of_neg (by simpa using hn)]
    · simp [hb, List.find?_cons, ih]

end Scope

end GlyphEffects
