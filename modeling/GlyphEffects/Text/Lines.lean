import GlyphEffects.Text.Delimiter

/-! # Lines

A line feed ends a line, and one carriage return directly before it belongs to the line end. What
follows the last line feed is a line too, unless it is empty.

* `lines` are the lines of a text.
* `Line.cut_ended` says how the first line is cut off, and `Line.cut_flatMap_ended` that plain
  lines, each with a line feed after it, are cut where they were joined.
-/

namespace GlyphEffects.Text

namespace Line

/-- A line without the carriage return at its end. -/
def withoutReturn (s : List Char) : List Char := if s.getLast? = some '\r' then s.dropLast else s

/-- Cuts a text into lines. -/
def cut (s : List Char) : List (List Char) :=
  match _h : onward '\n' s with
  | [] => if s.isEmpty then [] else [s]
  | _ :: rest => withoutReturn (before '\n' s) :: cut rest
termination_by s.length
decreasing_by exact length_lt_of_onward _h

/-- A line with a line feed after it. -/
def ended (s : List Char) : List Char := s ++ ['\n']

theorem cut_nil : cut [] = [] := by
  rw [cut]
  rfl

theorem cut_ended {s : List Char} (h : '\n' ∉ s) (rest : List Char) :
    cut (ended s ++ rest) = withoutReturn s :: cut rest := by
  have hs : ended s ++ rest = s ++ '\n' :: rest := List.append_cons s '\n' rest ▸ rfl
  rw [hs, cut]
  split
  next ho =>
    rw [onward_append_cons h] at ho
    nomatch ho
  next c r ho =>
    rw [onward_append_cons h] at ho
    rw [before_append_cons h, (List.cons.inj ho).2]

theorem withoutReturn_eq_self {s : List Char} (h : '\r' ∉ s) : withoutReturn s = s := by
  rw [withoutReturn, if_neg]
  intro hl
  exact h (List.mem_of_getLast? hl)

theorem cut_flatMap_ended {ls : List (List Char)} (h : ∀ l ∈ ls, '\n' ∉ l ∧ '\r' ∉ l) :
    cut (ls.flatMap ended) = ls := by
  induction ls with
  | nil => exact cut_nil
  | cons l ls ih =>
    obtain ⟨hn, hr⟩ := h l List.mem_cons_self
    have hls := ih fun x hx => h x (List.mem_cons_of_mem l hx)
    rw [List.flatMap_cons, cut_ended hn, withoutReturn_eq_self hr, hls]

end Line

/-- The lines of a text. -/
def lines (s : String) : List String := (Line.cut s.toList).map String.ofList

end GlyphEffects.Text
