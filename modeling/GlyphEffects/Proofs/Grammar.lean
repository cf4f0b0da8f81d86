import Mathlib.Data.List.TakeWhile
import GlyphEffects.Proofs.Reading
import GlyphEffects.Proofs.Segments

/-! # The grammar of format texts

A format text that is written by the grammar is read as what was written. The grammar knows runs of
text, closing tags and opening tags with arguments; it has no blanks, no broken tags and no braces
that stand alone, all of which may be read too.

* `Grammar.Item` is a derivation: a run, a closing tag or an opening tag. `Item.spell` writes it
  down, and `Item.token` is what it says.
* `Tag.segments_flatMap` cuts the arguments of a tag apart, and `Tag.pairs_spellOpening` reads them.
* `Tag.read_spellClosing` and `Tag.read_spellOpening`: a tag is read as what it says.
* `Grammar.parse_flatMap_spell`: **a format text is read as the items of which it is written**, and
  the last value that a tag gives to a key is the one that counts.
-/

namespace GlyphEffects.Markup

open GlyphEffects.Text GlyphEffects.Number

namespace Grammar

/-! ## Derivations -/

/-- The name of a tag: one or more letters. -/
structure Name where
  letters : List Char
  ne_nil : letters ≠ []
  isLetter : ∀ c ∈ letters, isLetter c

/-- The key of an argument: one or more word characters. -/
structure Key where
  chars : List Char
  ne_nil : chars ≠ []
  isWordChar : ∀ c ∈ chars, isWordChar c

/-- A literal that denotes a finite number. -/
structure Numeral extends Literal where
  wellFormed : toLiteral.WellFormed
  finite : toLiteral.value.isFinite

/-- A name as a key. -/
def Name.toKey (n : Name) : Key where
  chars := n.letters
  ne_nil := n.ne_nil
  isWordChar c hc := isWordChar_of_isLetter (n.isLetter c hc)

/-- One thing that the grammar writes. -/
inductive Item
  | run (text : List Char) (ne_nil : text ≠ []) (noBrace : '{' ∉ text)
  | closing (name : Name)
  | opening (name : Name) (main : Option Numeral) (arguments : List (Key × Numeral))

def spellAssignment (p : Key × Numeral) : List Char := p.1.chars ++ '=' :: p.2.spell

/-- The name of a tag, with its main number if that is given. -/
def spellHead (name : Name) : Option Numeral → List Char
  | none => name.letters
  | some x => spellAssignment (name.toKey, x)

/-- What stands between the braces of an opening tag. -/
def spellOpening (name : Name) (main : Option Numeral) (arguments : List (Key × Numeral)) :
    List Char :=
  spellHead name main ++ (arguments.map spellAssignment).flatMap (',' :: ·)

/-- The arguments of a tag in the order in which they are written, the main one first. -/
def written (name : Name) (main : Option Numeral) (arguments : List (Key × Numeral)) :
    List (Key × Numeral) :=
  (main.map (name.toKey, ·)).toList ++ arguments

def numberOf (p : Key × Numeral) : String × Float := (String.ofList p.1.chars, p.2.value)

/-- The last number that is written for a key. -/
def lastWritten? (name : Name) (main : Option Numeral) (arguments : List (Key × Numeral))
    (key : String) : Option Float :=
  (((written name main arguments).map numberOf).filter (·.1 = key)).getLast?.map Prod.snd

namespace Item

def isRun : Item → Bool
  | run .. => true
  | _ => false

def spell : Item → List Char
  | run text _ _ => text
  | closing name => '{' :: '/' :: name.letters ++ ['}']
  | opening name main arguments => '{' :: spellOpening name main arguments ++ ['}']

/-- What an item says. -/
def token : Item → Token
  | run text _ _ => .text (String.ofList text)
  | closing name => .closing (String.ofList name.letters)
  | opening name main arguments =>
    .openingWith (String.ofList name.letters) ((written name main arguments).map numberOf)

/-- The span as which an item is cut off. -/
def span : Item → Span
  | run text _ _ => .plain text
  | closing name => .braced ('/' :: name.letters)
  | opening name main arguments => .braced (spellOpening name main arguments)

theorem spell_span (i : Item) : i.span.spell = i.spell := by
  cases i <;> rfl

end Item

/-! ## The characters of a tag -/

/-- A character that may stand in a segment of a tag. -/
def IsSegmentChar (c : Char) : Prop := isWordChar c ∨ c = '=' ∨ c = '-' ∨ c = '.'

theorem IsSegmentChar.ne {c d : Char} (h : IsSegmentChar c) (hd : isWordChar d = false)
    (hne : d ≠ '=' ∧ d ≠ '-' ∧ d ≠ '.') : c ≠ d := by
  rintro rfl
  rcases h with h | h | h | h
  · rw [hd] at h
    cases h
  · exact hne.1 h
  · exact hne.2.1 h
  · exact hne.2.2 h

theorem IsSegmentChar.isBlank_eq_false {c : Char} (h : IsSegmentChar c) : isBlank c = false := by
  rcases h with h | rfl | rfl | rfl
  · exact isBlank_eq_false_of_isWordChar h
  all_goals decide

theorem isSegmentChar_of_mem_spell {x : Numeral} {c : Char} (h : c ∈ x.spell) :
    IsSegmentChar c := by
  rcases Literal.mem_spell x.wellFormed h with h | h | h
  · exact .inl (isWordChar_of_isDigit h)
  · exact .inr (.inr (.inl h))
  · exact .inr (.inr (.inr h))

theorem isSegmentChar_of_mem_assignment {p : Key × Numeral} {c : Char}
    (h : c ∈ spellAssignment p) : IsSegmentChar c := by
  rcases List.mem_append.1 h with h | h
  · exact .inl (p.1.isWordChar c h)
  · rcases List.mem_cons.1 h with h | h
    · exact .inr (.inl h)
    · exact isSegmentChar_of_mem_spell h

theorem isSegmentChar_of_mem_head {name : Name} {main : Option Numeral} {c : Char}
    (h : c ∈ spellHead name main) : IsSegmentChar c := by
  cases main with
  | none => exact .inl (name.toKey.isWordChar c h)
  | some x => exact isSegmentChar_of_mem_assignment h

theorem mem_spellOpening {name : Name} {main : Option Numeral} {arguments : List (Key × Numeral)}
    {c : Char} (h : c ∈ spellOpening name main arguments) : IsSegmentChar c ∨ c = ',' := by
  rcases List.mem_append.1 h with h | h
  · exact .inl (isSegmentChar_of_mem_head h)
  · obtain ⟨segment, hs, hc⟩ := List.mem_flatMap.1 h
    obtain ⟨p, -, rfl⟩ := List.mem_map.1 hs
    rcases List.mem_cons.1 hc with hc | hc
    · exact .inr hc
    · exact .inl (isSegmentChar_of_mem_assignment hc)

end Grammar

/-! ## Reading tags -/

namespace Tag

open Grammar

theorem segments_of_not_mem {s : List Char} (h : ',' ∉ s) : segments s = [s] := by
  rw [segments_eq_splitOn, List.splitOn_eq_singleton h]

theorem segments_append_comma {s : List Char} (h : ',' ∉ s) (rest : List Char) :
    segments (s ++ ',' :: rest) = s :: segments rest := by
  rw [segments_eq_splitOn, segments_eq_splitOn, List.splitOn_append_cons_self_of_not_mem h]

/-- Segments without commas are cut apart at the commas between them. -/
theorem segments_flatMap {s : List Char} {ss : List (List Char)} (h : ∀ t ∈ s :: ss, ',' ∉ t) :
    segments (s ++ ss.flatMap (',' :: ·)) = s :: ss := by
  induction ss generalizing s with
  | nil =>
    rw [List.flatMap_nil, List.append_nil]
    exact segments_of_not_mem (h s List.mem_cons_self)
  | cons t ss ih =>
    rw [List.flatMap_cons, List.cons_append, segments_append_comma (h s List.mem_cons_self),
      ih fun u hu => h u (List.mem_cons_of_mem s hu)]

/-- A key by itself has no equals sign. -/
theorem pair?_key (k : Key) : pair? k.chars = none := by
  rw [Option.eq_none_iff_forall_ne_some]
  rintro ⟨key, text⟩ h
  obtain ⟨value, ⟨gap, word, after, gap', hk, -, hword, -, hafter, -⟩, -⟩ := pair?_eq_some_iff.1 h
  have hsign : '=' ∈ k.chars := by simp [hk, hword.eq, hafter]
  exact absurd (k.isWordChar _ hsign) (by decide +kernel)

theorem pair?_spellAssignment (p : Key × Numeral) :
    pair? (spellAssignment p) = some (p.1.chars, p.2.spell) := by
  have hstop : ∀ c, ('=' :: p.2.spell).head? = some c → isWordChar c = false := by
    rintro c ⟨rfl⟩
    decide +kernel
  have hassigns : Assigns (spellAssignment p) p.1.chars p.2.spell :=
    ⟨[], _, _, [], rfl, nofun, ⟨rfl, p.1.isWordChar, hstop⟩, p.1.ne_nil, rfl, nofun⟩
  have htrim : trim p.2.spell = p.2.spell :=
    trim_eq_self fun c hc => (isSegmentChar_of_mem_spell hc).isBlank_eq_false
  rw [pair?_of_assigns hassigns, htrim]

theorem pair?_spellHead (name : Name) (main : Option Numeral) :
    pair? (spellHead name main) = main.map fun x => (name.letters, x.spell) := by
  cases main with
  | none => exact pair?_key name.toKey
  | some x => exact pair?_spellAssignment (name.toKey, x)

theorem not_comma_mem {s : List Char} (h : ∀ c ∈ s, IsSegmentChar c) : ',' ∉ s := fun hm =>
  (h ',' hm).ne (by decide +kernel) (by decide) rfl

/-- The arguments of a tag that is written by the grammar are read in their order. -/
theorem pairs_spellOpening (name : Name) (main : Option Numeral)
    (arguments : List (Key × Numeral)) :
    pairs (spellOpening name main arguments) =
      (written name main arguments).map fun p => (p.1.chars, p.2.spell) := by
  have hcomma : ∀ t ∈ spellHead name main :: arguments.map spellAssignment, ',' ∉ t := by
    intro t ht
    rcases List.mem_cons.1 ht with rfl | ht
    · exact not_comma_mem fun c => isSegmentChar_of_mem_head
    · obtain ⟨p, -, rfl⟩ := List.mem_map.1 ht
      exact not_comma_mem fun c => isSegmentChar_of_mem_assignment
  have hrest : (arguments.map spellAssignment).filterMap pair? =
      arguments.map fun p => (p.1.chars, p.2.spell) := by
    rw [List.filterMap_map, ← List.filterMap_eq_map]
    exact List.filterMap_congr fun p _ => pair?_spellAssignment p
  rw [pairs, spellOpening, segments_flatMap hcomma, List.filterMap_cons, pair?_spellHead, hrest]
  cases main <;> rfl

theorem ofLiteral?_numeral (x : Numeral) : ofLiteral? x.spell = some x.value :=
  ofLiteral?_spell x.wellFormed x.finite

/-- Values that are numerals are no fault. -/
theorem foldlM_addPair_spell (ps : List (Key × Numeral)) (a : Arguments) :
    (ps.map fun p => (p.1.chars, p.2.spell)).foldlM addPair a =
      .ok (a.insertMany (ps.map numberOf)) := by
  have hfault : (ps.map fun p => (p.1.chars, p.2.spell)).findSome? valueFault? = none := by
    rw [List.findSome?_eq_none_iff, List.forall_mem_map]
    intro p _
    rw [valueFault?, ofLiteral?_numeral]
  have hnumbers : (ps.map fun p => (p.1.chars, p.2.spell)).filterMap number? =
      ps.map numberOf := by
    rw [List.filterMap_map, ← List.filterMap_eq_map]
    refine List.filterMap_congr fun p _ => ?_
    rw [Function.comp_apply, number?, ofLiteral?_numeral]
    rfl
  rw [foldlM_addPair, hfault, hnumbers]
  rfl

/-- A name ends where the tag does, at an equals sign or at a comma. -/
theorem nameOf_spellOpening (name : Name) (main : Option Numeral)
    (arguments : List (Key × Numeral)) :
    nameOf (spellOpening name main arguments) = String.ofList name.letters := by
  have hcomma : ∀ c, ((arguments.map spellAssignment).flatMap (',' :: ·)).head? = some c →
      isLetter c = false := by
    intro c hc
    cases arguments with
    | nil => cases hc
    | cons p ps =>
      obtain rfl := Option.some.inj hc
      decide
  refine congrArg String.ofList ?_
  cases main with
  | none => exact takeWhile_append_of_all name.isLetter hcomma
  | some x =>
    rw [spellOpening, spellHead, spellAssignment, List.append_assoc]
    refine takeWhile_append_of_all name.isLetter ?_
    rintro c ⟨rfl⟩
    decide

theorem read_spellClosing (name : Name) :
    read ('/' :: name.letters) = .ok (.closing (String.ofList name.letters)) := by
  have hblank : ∀ c ∈ name.letters, isBlank c = false := fun c hc =>
    isBlank_eq_false_of_isWordChar (name.toKey.isWordChar c hc)
  have htrim : trim ('/' :: name.letters) = '/' :: name.letters := by
    refine trim_eq_self fun c hc => ?_
    rcases List.mem_cons.1 hc with rfl | hc
    · decide
    · exact hblank c hc
  have hname : name.letters.takeWhile isLetter = name.letters :=
    List.takeWhile_eq_self_iff.2 name.isLetter
  rw [read, htrim]
  simp only
  rw [trimStart_eq_self hblank, nameOf, hname]

theorem read_spellOpening (name : Name) (main : Option Numeral)
    (arguments : List (Key × Numeral)) :
    read (spellOpening name main arguments) = .ok (Item.opening name main arguments).token := by
  have htrim : trim (spellOpening name main arguments) = spellOpening name main arguments := by
    refine trim_eq_self fun c hc => ?_
    rcases mem_spellOpening hc with hc | rfl
    · exact hc.isBlank_eq_false
    · decide
  have harguments : Tag.arguments (spellOpening name main arguments) =
      .ok ((Arguments.named (String.ofList name.letters)).insertMany
        ((written name main arguments).map numberOf)) := by
    rw [Tag.arguments, pairs_spellOpening, foldlM_addPair_spell, nameOf_spellOpening]
  rw [read, htrim]
  split
  next rest heq =>
    have hslash : '/' ∈ spellOpening name main arguments := heq ▸ List.mem_cons_self
    rcases mem_spellOpening hslash with h | h
    · exact absurd rfl (h.ne (by decide +kernel) (by decide))
    · exact absurd h (by decide)
  next =>
    rw [harguments, nameOf_spellOpening]
    rfl

end Tag

namespace Grammar

/-! ## Reading items -/

section Apart

variable {items : List Item} (h : items.IsChain fun a b => ¬ (a.isRun ∧ b.isRun))

include h

theorem ofSpans_map_span : ofSpans (items.map Item.span) = .ok (items.map Item.token) := by
  induction items with
  | nil => rfl
  | cons i items ih =>
    obtain ⟨hnext, hrest⟩ := List.isChain_cons.1 h
    rw [List.map_cons, List.map_cons]
    cases i with
    | run text hne hbrace =>
      have hhead : ∀ t, (items.map Item.token).head? = some t → t.isText = false := by
        intro t ht
        rw [List.head?_map, Option.map_eq_some_iff] at ht
        obtain ⟨j, hj, rfl⟩ := ht
        have hrun := hnext j hj
        cases j with
        | run => exact absurd ⟨rfl, rfl⟩ hrun
        | closing => rfl
        | opening => rfl
      rw [Item.span, ofSpans, ih hrest]
      exact congrArg Except.ok (consText_eq_cons hne hhead)
    | closing name =>
      rw [Item.span, ofSpans, Tag.read_spellClosing, ih hrest]
      rfl
    | opening name main arguments =>
      rw [Item.span, ofSpans, Tag.read_spellOpening, ih hrest]
      rfl

theorem wellFormed_map_span : Span.WellFormed (items.map Item.span) := by
  induction items with
  | nil => exact Span.wellFormed_nil
  | cons i items ih =>
    obtain ⟨hnext, hrest⟩ := List.isChain_cons.1 h
    refine Span.wellFormed_cons_iff.2 ⟨?_, ih hrest⟩
    cases i with
    | run text hne hbrace =>
      refine ⟨hne, fun ho => absurd ho hbrace, fun u hu => ?_⟩
      rw [List.head?_map, Option.map_eq_some_iff] at hu
      obtain ⟨j, hj, hspan⟩ := hu
      have hrun := hnext j hj
      cases j with
      | run => exact absurd ⟨rfl, rfl⟩ hrun
      | closing => cases hspan
      | opening => cases hspan
    | closing name =>
      intro hm
      rcases List.mem_cons.1 hm with hm | hm
      · exact absurd hm (by decide)
      · exact absurd (name.isLetter _ hm) (by decide)
    | opening name main arguments =>
      intro hm
      rcases mem_spellOpening hm with hm | hm
      · exact hm.ne (by decide +kernel) (by decide) rfl
      · exact absurd hm (by decide)

theorem parse_spelling :
    parse (String.ofList (items.flatMap Item.spell)) = .ok (items.map Item.token) := by
  have hspell : items.flatMap Item.spell = (items.map Item.span).flatMap Span.spell := by
    rw [List.flatMap_map]
    exact List.flatMap_congr fun i _ => i.spell_span.symm
  rw [parse, String.toList_ofList, hspell, (wellFormed_map_span h).split_flatMap_spell,
    ofSpans_map_span h]

end Apart

theorem token_opening (name : Name) (main : Option Numeral) (arguments : List (Key × Numeral)) :
    ∃ a, (Item.opening name main arguments).token = .opening (String.ofList name.letters) a ∧
      a.name = String.ofList name.letters ∧
      ∀ key, a.get? key = lastWritten? name main arguments key := by
  refine ⟨_, rfl, Arguments.name_insertMany _ _, fun key => ?_⟩
  rw [Arguments.get?_insertMany, Arguments.get?_named, Option.or_none, lastWritten?]

/-- **A text that is written by the grammar is read as the items of which it is written.** The
arguments of an opening tag carry its name, and hold for every key the last number that is written
for it. -/
theorem parse_flatMap_spell (items : List Item)
    (h : items.IsChain fun a b => ¬ (a.isRun ∧ b.isRun)) :
    parse (String.ofList (items.flatMap Item.spell)) = .ok (items.map Item.token) ∧
      ∀ name main arguments, ∃ a,
        (Item.opening name main arguments).token = .opening (String.ofList name.letters) a ∧
          a.name = String.ofList name.letters ∧
          ∀ key, a.get? key = lastWritten? name main arguments key :=
  ⟨parse_spelling h, token_opening⟩

/-- A tag with a main number and a key that is given twice, text with a brace in it, and a name with
a letter beyond ASCII. -/
def waving : List Item :=
  let naive : Name := ⟨"naïve".toList, by decide, List.all_eq_true.1 (by decide)⟩
  let speed : Key := ⟨"speed_2".toList, by decide, List.all_eq_true.1 (by decide)⟩
  let two : Numeral :=
    ⟨⟨false, ['2'], []⟩, ⟨nofun, List.all_eq_true.1 rfl, List.all_eq_true.1 rfl⟩, by decide +kernel⟩
  let half : Numeral :=
    ⟨⟨true, ['0'], ['5', '0']⟩, ⟨nofun, List.all_eq_true.1 rfl, List.all_eq_true.1 rfl⟩,
      by decide +kernel⟩
  [.opening naive (some two) [(speed, two), (speed, half)],
    .run "a\x7db".toList (by decide) (by decide), .closing naive]

theorem parse_waving :
    waving.IsChain (fun a b => ¬ (a.isRun ∧ b.isRun)) ∧
      parse "\x7bnaïve=2,speed_2=2,speed_2=-0.50\x7da\x7db\x7b/naïve\x7d" =
        .ok (waving.map Item.token) := by
  have happart : waving.IsChain fun a b => ¬ (a.isRun ∧ b.isRun) := by decide
  have hspell : String.ofList (waving.flatMap Item.spell) =
      "\x7bnaïve=2,speed_2=2,speed_2=-0.50\x7da\x7db\x7b/naïve\x7d" := by decide +kernel
  exact ⟨happart, hspell ▸ (parse_flatMap_spell waving happart).1⟩

end Grammar

end GlyphEffects.Markup
