/-! # Delimiters

A text is cut at the first place where a given character stands.

* `before` and `onward` are the text up to the first delimiter and the text from it on.
* `before_append_onward`, `not_mem_before` and `eq_of_onward_eq_cons` say that nothing is lost,
  that the first part holds no delimiter, and that the second starts with one.
* `before_append` and `onward_append` find the first delimiter.
-/

namespace GlyphEffects.Text

/-- The text before the first `d`. -/
def before (d : Char) : List Char → List Char
  | [] => []
  | c :: cs => if c = d then [] else c :: before d cs

/-- The text from the first `d` on. -/
def onward (d : Char) : List Char → List Char
  | [] => []
  | c :: cs => if c = d then c :: cs else onward d cs

theorem before_append_onward (d : Char) (s : List Char) : before d s ++ onward d s = s := by
  induction s with
  | nil => rfl
  | cons c cs ih => grind [before, onward]

theorem not_mem_before (d : Char) (s : List Char) : d ∉ before d s := by
  induction s with
  | nil => simp [before]
  | cons c cs ih => grind [before]

theorem eq_of_onward_eq_cons {d c : Char} {s rest : List Char} (h : onward d s = c :: rest) :
    c = d := by
  induction s with
  | nil => simp [onward] at h
  | cons x xs ih => grind [onward]

theorem onward_eq_nil_iff {d : Char} {s : List Char} : onward d s = [] ↔ d ∉ s := by
  induction s with
  | nil => simp [onward]
  | cons c cs ih => grind [onward]

theorem mem_of_mem_onward {d c : Char} {s : List Char} (h : c ∈ onward d s) : c ∈ s := by
  rw [← before_append_onward d s]
  exact List.mem_append_right _ h

theorem length_onward_le (d : Char) (s : List Char) : (onward d s).length ≤ s.length := by
  induction s with
  | nil => simp [onward]
  | cons c cs ih => grind [onward]

theorem length_lt_of_onward {d c : Char} {s rest : List Char} (h : onward d s = c :: rest) :
    rest.length < s.length := by
  have hle := length_onward_le d s
  rw [h, List.length_cons] at hle
  exact hle

theorem before_append {d : Char} {s rest : List Char} (h : d ∉ s)
    (hr : ∀ c, rest.head? = some c → c = d) : before d (s ++ rest) = s := by
  induction s with
  | nil =>
    cases rest with
    | nil => rfl
    | cons c cs => exact if_pos (hr c rfl)
  | cons c cs ih =>
    have hc : c ≠ d := fun e => h (e ▸ List.mem_cons_self)
    have hcs : d ∉ cs := fun m => h (List.mem_cons_of_mem c m)
    rw [List.cons_append, before, if_neg hc, ih hcs]

theorem onward_append {d : Char} {s rest : List Char} (h : d ∉ s)
    (hr : ∀ c, rest.head? = some c → c = d) : onward d (s ++ rest) = rest := by
  have hsplit := before_append_onward d (s ++ rest)
  rw [before_append h hr] at hsplit
  exact List.append_cancel_left hsplit

theorem onward_append_of_not_mem {d : Char} {s : List Char} (h : d ∉ s) (rest : List Char) :
    onward d (s ++ rest) = onward d rest := by
  induction s with
  | nil => rfl
  | cons c cs ih =>
    have hc : c ≠ d := fun e => h (e ▸ List.mem_cons_self)
    have hcs : d ∉ cs := fun m => h (List.mem_cons_of_mem c m)
    rw [List.cons_append, onward, if_neg hc, ih hcs]

theorem before_append_cons {d : Char} {s : List Char} (h : d ∉ s) (rest : List Char) :
    before d (s ++ d :: rest) = s := before_append h fun _ hc => (Option.some.inj hc).symm

theorem onward_append_cons {d : Char} {s : List Char} (h : d ∉ s) (rest : List Char) :
    onward d (s ++ d :: rest) = d :: rest := onward_append h fun _ hc => (Option.some.inj hc).symm

end GlyphEffects.Text
