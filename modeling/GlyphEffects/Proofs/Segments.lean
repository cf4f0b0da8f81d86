import GlyphEffects.Markup.Tag
import GlyphEffects.Proofs.Numerals

/-! # How segments are read

A tag is cut at all of its commas. A segment between two of them gives a value to a key if it has the
form of an argument, which can be said without the runs that are read one after the other: a key is
as long as it can be, and the value is all that follows the equals sign. The values are read in their
order until one of them is no number.

* `LongestRun`: a text starts with a run of some class and goes on otherwise.
* `Tag.segments_eq_splitOn`: the segments are what stands between the commas.
* `Tag.Assigns`: a segment gives a value to a key. `Tag.pair?_eq_some_iff`: **this is how a segment
  is read.**
* `Tag.foldlM_addPair`: what reading several values comes to.
-/

namespace GlyphEffects.Markup

open GlyphEffects.Text GlyphEffects.Number

/-! ## Longest runs -/

/-- A text starts with a run of characters of a class, and what follows the run starts with no such
character: the run is as long as it can be. -/
structure LongestRun (p : Char → Bool) (s run rest : List Char) : Prop where
  eq : s = run ++ rest
  all : ∀ c ∈ run, p c
  stop : ∀ c, rest.head? = some c → p c = false

section Run

variable {p : Char → Bool} {s run rest : List Char}

theorem longestRun_takeWhile (p : Char → Bool) (s : List Char) :
    LongestRun p s (s.takeWhile p) (s.dropWhile p) where
  eq := List.takeWhile_append_dropWhile.symm
  all _ hc := List.mem_takeWhile_imp hc
  stop c hc := by
    have hstop := List.head?_dropWhile_not p s
    rw [hc] at hstop
    exact hstop

theorem LongestRun.takeWhile_eq (h : LongestRun p s run rest) : s.takeWhile p = run := by
  rw [h.eq, takeWhile_append_of_all h.all h.stop]

theorem LongestRun.dropWhile_eq (h : LongestRun p s run rest) : s.dropWhile p = rest := by
  rw [h.eq, dropWhile_append_of_all h.all h.stop]

theorem longestRun_append_cons {c : Char} (hrun : ∀ x ∈ run, p x) (hc : p c = false)
    (rest : List Char) : LongestRun p (run ++ c :: rest) run (c :: rest) where
  eq := rfl
  all := hrun
  stop _ hx := by
    obtain rfl := Option.some.inj hx
    exact hc

/-- A run that has ended does not reach into what is put behind the text. -/
theorem LongestRun.append (h : LongestRun p s run rest) (hne : rest ≠ []) (t : List Char) :
    LongestRun p (s ++ t) run (rest ++ t) where
  eq := by rw [h.eq, List.append_assoc]
  all := h.all
  stop c hc := h.stop c (by rwa [List.head?_append_of_ne_nil _ hne] at hc)

end Run

namespace Tag

/-! ## Commas -/

theorem segments_eq_splitOn (s : List Char) : segments s = s.splitOn ',' := by
  fun_induction segments s with
  | case1 s h => rw [List.splitOn_eq_singleton (onward_eq_nil_iff.1 h)]
  | case2 s c rest h ih =>
    have hs := before_append_onward ',' s
    rw [h, eq_of_onward_eq_cons h] at hs
    conv_rhs => rw [← hs, List.splitOn_append_cons_self_of_not_mem (not_mem_before ',' s), ← ih]

/-! ## Keys -/

/-- A segment gives a value to a key: behind spaces and tabs stands the key, a longest run of word
characters that is not empty, and behind more spaces and tabs an equals sign. The value is all that
follows the sign. -/
def Assigns (segment key value : List Char) : Prop :=
  ∃ gap word after gap', segment = gap ++ word ∧ (∀ c ∈ gap, isGap c) ∧
    LongestRun isWordChar word key after ∧ key ≠ [] ∧
    after = gap' ++ '=' :: value ∧ ∀ c ∈ gap', isGap c

theorem isGap_eq_false_of_isWordChar {c : Char} (h : isWordChar c) : isGap c = false := by
  have hb := isBlank_eq_false_of_isWordChar h
  by_contra hg
  rw [Bool.not_eq_false, isGap, Bool.or_eq_true, decide_eq_true_iff, decide_eq_true_iff] at hg
  rcases hg with rfl | rfl <;> exact absurd hb (by decide)

section Pair

variable {segment key value text : List Char}

theorem pair?_of_assigns (h : Assigns segment key value) :
    pair? segment = some (key, trim value) := by
  obtain ⟨gap, word, after, gap', rfl, hgap, hkey, hne, rfl, hgap'⟩ := h
  have hword : (gap ++ word).dropWhile isGap = word := by
    refine dropWhile_append_of_all hgap fun c hc => ?_
    obtain ⟨d, ds, rfl⟩ := List.exists_cons_of_ne_nil hne
    rw [hkey.eq] at hc
    obtain rfl := Option.some.inj hc
    exact isGap_eq_false_of_isWordChar (hkey.all d List.mem_cons_self)
  have hsign : (gap' ++ '=' :: value).dropWhile isGap = '=' :: value := by
    refine dropWhile_append_of_all hgap' ?_
    rintro c ⟨rfl⟩
    decide
  rw [pair?, hword, hkey.takeWhile_eq, hkey.dropWhile_eq, hsign, if_neg (by simpa using hne)]
  rfl

theorem pair?_eq_some_iff :
    pair? segment = some (key, text) ↔ ∃ value, Assigns segment key value ∧ text = trim value := by
  constructor
  · intro h
    simp only [pair?] at h
    split at h
    next => cases h
    next hne =>
      split at h
      next value hsign =>
        obtain ⟨rfl, rfl⟩ := Prod.mk.inj (Option.some.inj h)
        let word := segment.dropWhile isGap
        let after := word.dropWhile isWordChar
        refine ⟨value, ⟨segment.takeWhile isGap, word, after, after.takeWhile isGap, ?_, ?_,
          longestRun_takeWhile isWordChar word, ?_, ?_, ?_⟩, rfl⟩
        · exact List.takeWhile_append_dropWhile.symm
        · exact fun c hc => List.mem_takeWhile_imp hc
        · simpa using hne
        · rw [← hsign, List.takeWhile_append_dropWhile]
        · exact fun c hc => List.mem_takeWhile_imp hc
      next => cases h
  · rintro ⟨value, h, rfl⟩
    exact pair?_of_assigns h

theorem pair?_bind_eq_some_iff {α : Type} {f : List Char × List Char → Option α} {b : α} :
    (pair? segment).bind f = some b ↔
      ∃ key value, Assigns segment key value ∧ f (key, trim value) = some b := by
  rw [Option.bind_eq_some_iff]
  constructor
  · rintro ⟨⟨key, text⟩, hp, hb⟩
    obtain ⟨value, h, rfl⟩ := pair?_eq_some_iff.1 hp
    exact ⟨key, value, h, hb⟩
  · rintro ⟨key, value, h, hb⟩
    exact ⟨(key, trim value), pair?_of_assigns h, hb⟩

theorem pair?_bind_eq_none_iff {α : Type} {f : List Char × List Char → Option α} :
    (pair? segment).bind f = none ↔
      ∀ key value, Assigns segment key value → f (key, trim value) = none := by
  rw [Option.bind_eq_none_iff]
  constructor
  · exact fun hf key value h => hf _ (pair?_of_assigns h)
  · rintro hf ⟨key, text⟩ hp
    obtain ⟨value, h, rfl⟩ := pair?_eq_some_iff.1 hp
    exact hf key value h

end Pair

/-! ## Values -/

/-- The fault of a key with a text as its value: the text is no number. -/
def valueFault? (p : List Char × List Char) : Option InvalidArgument :=
  match ofLiteral? p.2 with
  | some _ => none
  | none => some ⟨String.ofList p.1, String.ofList p.2⟩

/-- A key and a text, as the key and the number that the text is. -/
def number? (p : List Char × List Char) : Option (String × Float) :=
  (ofLiteral? p.2).map (String.ofList p.1, ·)

/-- The first value that is no number is the fault. If there is none then all numbers are given, in
their order. -/
theorem foldlM_addPair (ps : List (List Char × List Char)) (a : Arguments) :
    ps.foldlM addPair a =
      (ps.findSome? valueFault?).elim (.ok (a.insertMany (ps.filterMap number?))) .error := by
  induction ps generalizing a with
  | nil => rfl
  | cons p ps ih =>
    rw [List.foldlM_cons, List.findSome?_cons, List.filterMap_cons]
    unfold addPair valueFault? number?
    cases ofLiteral? p.2 with
    | some x => exact ih _
    | none => rfl

theorem eq_insertMany_of_arguments {s : List Char} {a : Arguments} (h : arguments s = .ok a) :
    a = (Arguments.named (nameOf s)).insertMany ((pairs s).filterMap number?) := by
  rw [arguments, foldlM_addPair] at h
  cases hfault : (pairs s).findSome? valueFault? with
  | none =>
    rw [hfault] at h
    exact (Except.ok.inj h).symm
  | some e =>
    rw [hfault] at h
    cases h

theorem name_arguments {s : List Char} {a : Arguments} (h : arguments s = .ok a) :
    a.name = nameOf s := by
  rw [eq_insertMany_of_arguments h, Arguments.name_insertMany]
  rfl

end Tag

end GlyphEffects.Markup
