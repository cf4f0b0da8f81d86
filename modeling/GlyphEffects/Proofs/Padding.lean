import GlyphEffects.Proofs.Grammar

/-! # Blanks in a tag

An opening tag may be written with blanks around its name, its keys and its values. Blanks at the
ends of a tag and around a value may be of any kind; around a key only spaces and tabs are passed
over, and with another blank beside its key an argument is not heard at all.

* `Layout.Opening`: an opening tag as it is written, with `Layout.Padding` around keys and values.
  `Opening.compact` is the tag without its blanks, and `Opening.heard` what is heard of it.
* `Tag.assigns_padded_iff`: which blanks around a key let an argument be heard.
* `Tag.pair?_append_of_isBlank` and `Tag.read_of_isBlank_append`: blanks at the end of a segment and
  at the ends of a tag say nothing.
* `Layout.Opening.read_spell`: what a tag with blanks in it is read as.
* `Layout.Opening.read_spell_law`: **blanks say nothing, but for those that silence a key.**
* `Layout.Opening.read_wrapped_ne_compact`: a line break before a key is one of those.
-/

namespace GlyphEffects

open GlyphEffects.Text

namespace Markup.Layout

open Grammar Tag

/-! ## Tags as they are written -/

/-- Blanks and nothing else. -/
structure Blanks where
  chars : List Char
  isBlank : ∀ c ∈ chars, isBlank c

/-- What is written as a value: any text without a comma, be it a number or not. -/
structure Value where
  chars : List Char
  noComma : ',' ∉ chars

/-- The blanks on both sides of a key and on both sides of its value. -/
structure Padding where
  beforeKey : Blanks
  behindKey : Blanks
  beforeValue : Blanks
  behindValue : Blanks

/-- An argument as it is written. -/
structure Assignment where
  key : Key
  value : Value
  padding : Padding

/-- An opening tag as it is written: its name, the value of the name if there is one, and more
arguments. -/
structure Opening where
  name : Name
  main : Option Value
  padding : Padding
  arguments : List Assignment

def Blanks.none : Blanks := ⟨[], nofun⟩

def Padding.none : Padding := ⟨.none, .none, .none, .none⟩

namespace Assignment

def spellValue (a : Assignment) : List Char :=
  a.padding.beforeValue.chars ++ a.value.chars ++ a.padding.behindValue.chars

def spell (a : Assignment) : List Char :=
  a.padding.beforeKey.chars ++
    (a.key.chars ++ (a.padding.behindKey.chars ++ '=' :: a.spellValue))

/-- The argument without the blanks around its key and its value. -/
def compact (a : Assignment) : Assignment := { a with padding := .none }

/-- Only spaces and tabs stand around the key. -/
def isHeard (a : Assignment) : Bool :=
  a.padding.beforeKey.chars.all isGap && a.padding.behindKey.chars.all isGap

/-- What is heard of an argument: its key and its value, or nothing. -/
def pair? (a : Assignment) : Option (List Char × List Char) :=
  if a.isHeard then some (a.key.chars, trim a.value.chars) else none

end Assignment

namespace Opening

/-- The argument that is written with the name. The blanks before the name are those at the start of
the tag. -/
def mainArgument? (o : Opening) : Option Assignment :=
  o.main.map fun value => ⟨o.name.toKey, value, { o.padding with beforeKey := .none }⟩

/-- The name with its value, if there is one. -/
def spellHead (o : Opening) : List Char :=
  (o.mainArgument?.map Assignment.spell).getD (o.name.letters ++ o.padding.behindKey.chars)

/-- The tag from its name on. -/
def core (o : Opening) : List Char :=
  o.spellHead ++ (o.arguments.map Assignment.spell).flatMap (',' :: ·)

def spell (o : Opening) : List Char := o.padding.beforeKey.chars ++ o.core

/-- All that the tag assigns, in the order in which it is written. -/
def assignments (o : Opening) : List Assignment := o.mainArgument?.toList ++ o.arguments

/-- The tag without the blanks around its name, its keys and its values. -/
def compact (o : Opening) : Opening where
  name := o.name
  main := o.main
  padding := .none
  arguments := o.arguments.map Assignment.compact

/-- What is heard of the tag, without its blanks. -/
def heard (o : Opening) : Opening where
  name := o.name
  main := (o.mainArgument?.filter Assignment.isHeard).map Assignment.value
  padding := .none
  arguments := (o.arguments.filter Assignment.isHeard).map Assignment.compact

end Opening

end Markup.Layout

namespace Text

/-! ## Blanks at the ends of a text -/

variable {s blanks : List Char}

theorem trimStart_append_of_isBlank (h : ∀ c ∈ blanks, isBlank c) (s : List Char) :
    trimStart (blanks ++ s) = trimStart s := by
  rw [trimStart, List.dropWhile_append_of_pos h, trimStart]

theorem trimEnd_append_of_isBlank (h : ∀ c ∈ blanks, isBlank c) (s : List Char) :
    trimEnd (s ++ blanks) = trimEnd s := by
  rw [trimEnd, List.reverse_append,
    List.dropWhile_append_of_pos fun c hc => h c (List.mem_reverse.1 hc), trimEnd]

theorem trimStart_append (h : trimStart s ≠ []) (t : List Char) :
    trimStart (s ++ t) = trimStart s ++ t := by
  rw [trimStart, List.dropWhile_append, if_neg (by simpa [trimStart] using h), trimStart]

theorem trim_append_of_isBlank (h : ∀ c ∈ blanks, isBlank c) (s : List Char) :
    trim (s ++ blanks) = trim s := by
  by_cases hs : trimStart s = []
  · have hall : ∀ c ∈ s, isBlank c := List.dropWhile_eq_nil_iff.1 hs
    rw [trim, trim, trimStart_append_of_isBlank hall, hs]
    exact congrArg trimEnd (List.dropWhile_eq_nil_iff.2 h)
  · rw [trim, trimStart_append hs, trimEnd_append_of_isBlank h, trim]

theorem trim_of_isBlank_append (h : ∀ c ∈ blanks, isBlank c) (s : List Char) :
    trim (blanks ++ s) = trim s := by
  rw [trim, trimStart_append_of_isBlank h, trim]

/-- What is taken off the end of a text are blanks. -/
theorem exists_eq_trimEnd_append (s : List Char) :
    ∃ blanks, s = trimEnd s ++ blanks ∧ ∀ c ∈ blanks, isBlank c := by
  refine ⟨(s.reverse.takeWhile isBlank).reverse, ?_, fun c hc => ?_⟩
  · rw [trimEnd, ← List.reverse_append, List.takeWhile_append_dropWhile, List.reverse_reverse]
  · exact List.mem_takeWhile_imp (List.mem_reverse.1 hc)

theorem not_mem_of_isBlank (h : ∀ c ∈ blanks, isBlank c) {d : Char} (hd : isBlank d = false) :
    d ∉ blanks := by
  intro hm
  rw [h d hm] at hd
  cases hd

theorem isWordChar_eq_false_of_isBlank {c : Char} (h : isBlank c) : isWordChar c = false := by
  by_contra hw
  rw [isBlank_eq_false_of_isWordChar (Bool.eq_true_of_not_eq_false hw)] at h
  cases h

end Text

theorem Markup.LongestRun.unique {p : Char → Bool} {s run run' rest rest' : List Char}
    (h : LongestRun p s run rest) (h' : LongestRun p s run' rest') : run = run' ∧ rest = rest' :=
  ⟨h.takeWhile_eq.symm.trans h'.takeWhile_eq, h.dropWhile_eq.symm.trans h'.dropWhile_eq⟩

namespace Markup.Tag

variable {segment blanks key value : List Char}

/-! ## Blanks around a key -/

theorem isBlank_of_isGap {c : Char} (h : isGap c) : isBlank c := by
  rw [isGap, Bool.or_eq_true, decide_eq_true_iff, decide_eq_true_iff] at h
  rcases h with rfl | rfl <;> decide

/-- A segment gives a value to a key if spaces and tabs alone stand around the key. -/
theorem assigns_iff :
    Assigns segment key value ↔
      ∃ gap gap', segment = gap ++ (key ++ (gap' ++ '=' :: value)) ∧ key ≠ [] ∧
        (∀ c ∈ key, isWordChar c) ∧ (∀ c ∈ gap, isGap c) ∧ ∀ c ∈ gap', isGap c := by
  constructor
  · rintro ⟨gap, word, after, gap', rfl, hgap, hkey, hne, rfl, hgap'⟩
    exact ⟨gap, gap', by rw [hkey.eq], hne, hkey.all, hgap, hgap'⟩
  · rintro ⟨gap, gap', rfl, hne, hkey, hgap, hgap'⟩
    refine ⟨gap, _, _, gap', rfl, hgap, ⟨rfl, hkey, fun c hc => ?_⟩, hne, rfl, hgap'⟩
    cases gap' with
    | nil =>
      obtain rfl := Option.some.inj hc
      decide +kernel
    | cons d ds =>
      obtain rfl := Option.some.inj hc
      exact isWordChar_eq_false_of_isBlank (isBlank_of_isGap (hgap' d List.mem_cons_self))

/-- Blanks at the end of a segment say nothing. -/
theorem pair?_append_of_isBlank (h : ∀ c ∈ blanks, isBlank c) (segment : List Char) :
    pair? (segment ++ blanks) = pair? segment := by
  have hsign : '=' ∉ blanks := not_mem_of_isBlank h (by decide)
  refine Option.ext fun ⟨key, text⟩ => ?_
  simp only [pair?_eq_some_iff, assigns_iff]
  constructor
  · rintro ⟨whole, ⟨gap, gap', hs, hrest⟩, rfl⟩
    rw [← List.append_assoc, ← List.append_assoc, List.append_eq_append_iff] at hs
    obtain ⟨cs, hcs, hblanks⟩ | ⟨cs, rfl, hcs⟩ := hs
    · exact absurd (hblanks ▸ by simp) hsign
    · cases cs with
      | nil => exact absurd (List.mem_of_mem_head? (congrArg List.head? hcs).symm) hsign
      | cons c value =>
        obtain ⟨rfl, rfl⟩ := List.cons.inj hcs
        exact ⟨value, ⟨gap, gap', by simp, hrest⟩, trim_append_of_isBlank h value⟩
  · rintro ⟨value, ⟨gap, gap', rfl, hrest⟩, rfl⟩
    exact ⟨value ++ blanks, ⟨gap, gap', by simp, hrest⟩, (trim_append_of_isBlank h value).symm⟩

section Padded

variable {first second word rest : List Char} (hfirst : ∀ c ∈ first, isBlank c)
  (hsecond : ∀ c ∈ second, isBlank c) (hne : word ≠ []) (hword : ∀ c ∈ word, isWordChar c)

include hfirst hne hword in
theorem longestRun_blanks_word (rest : List Char) :
    LongestRun isBlank (first ++ (word ++ rest)) first (word ++ rest) where
  eq := rfl
  all := hfirst
  stop c hc := by
    obtain ⟨d, ds, rfl⟩ := List.exists_cons_of_ne_nil hne
    obtain rfl := Option.some.inj hc
    exact isBlank_eq_false_of_isWordChar (hword d List.mem_cons_self)

include hsecond in
theorem longestRun_blanks_sign (rest : List Char) :
    LongestRun isBlank (second ++ '=' :: rest) second ('=' :: rest) where
  eq := rfl
  all := hsecond
  stop c hc := by
    obtain rfl := Option.some.inj hc
    decide

include hsecond hword in
theorem longestRun_word_blanks (rest : List Char) :
    LongestRun isWordChar (word ++ (second ++ '=' :: rest)) word (second ++ '=' :: rest) where
  eq := rfl
  all := hword
  stop c hc := by
    cases second with
    | nil =>
      obtain rfl := Option.some.inj hc
      decide +kernel
    | cons d ds =>
      obtain rfl := Option.some.inj hc
      exact isWordChar_eq_false_of_isBlank (hsecond d List.mem_cons_self)

include hfirst hsecond hne hword in
/-- With blanks around its key an argument is heard if they are spaces and tabs. -/
theorem assigns_padded_iff :
    Assigns (first ++ (word ++ (second ++ '=' :: rest))) key value ↔
      (key = word ∧ value = rest) ∧ (∀ c ∈ first, isGap c) ∧ ∀ c ∈ second, isGap c := by
  rw [assigns_iff]
  constructor
  · rintro ⟨gap, gap', hs, hkne, hkey, hgap, hgap'⟩
    have hblank : ∀ c ∈ gap, isBlank c := fun c hc => isBlank_of_isGap (hgap c hc)
    have hblank' : ∀ c ∈ gap', isBlank c := fun c hc => isBlank_of_isGap (hgap' c hc)
    -- the blanks, the key and the blanks behind it are longest runs, so the cut is unique
    obtain ⟨rfl, hafter⟩ := (longestRun_blanks_word hfirst hne hword _).unique
      (hs ▸ longestRun_blanks_word hblank hkne hkey _)
    obtain ⟨rfl, htail⟩ := (longestRun_word_blanks hsecond hword rest).unique
      (hafter ▸ longestRun_word_blanks hblank' hkey value)
    obtain ⟨rfl, hvalue⟩ := (longestRun_blanks_sign hsecond rest).unique
      (htail ▸ longestRun_blanks_sign hblank' value)
    exact ⟨⟨rfl, (List.cons.inj hvalue).2.symm⟩, hgap, hgap'⟩
  · rintro ⟨⟨rfl, rfl⟩, hgap, hgap'⟩
    exact ⟨first, second, rfl, hne, hword, hgap, hgap'⟩

end Padded

/-! ## Blanks at the ends of a tag -/

theorem pairs_append_of_isBlank (h : ∀ c ∈ blanks, isBlank c) (s : List Char) :
    pairs (s ++ blanks) = pairs s := by
  rw [pairs, pairs]
  fun_induction segments s with
  | case1 s hs =>
    have hcomma : ',' ∉ s ++ blanks := by
      rw [List.mem_append, not_or]
      exact ⟨onward_eq_nil_iff.1 hs, not_mem_of_isBlank h (by decide)⟩
    rw [segments_of_not_mem hcomma, List.filterMap_cons, List.filterMap_cons,
      pair?_append_of_isBlank h]
  | case2 s c rest hs ih =>
    have hcut := before_append_onward ',' s
    rw [hs, eq_of_onward_eq_cons hs] at hcut
    have hwhole : s ++ blanks = before ',' s ++ ',' :: (rest ++ blanks) := by
      conv_lhs => rw [← hcut]
      simp
    rw [hwhole, segments_append_comma (not_mem_before ',' s), List.filterMap_cons, ih,
      List.filterMap_cons]

theorem isLetter_eq_false_of_isBlank {c : Char} (h : isBlank c) : isLetter c = false := by
  by_contra hl
  have hw := isWordChar_of_isLetter (Bool.eq_true_of_not_eq_false hl)
  rw [isWordChar_eq_false_of_isBlank h] at hw
  cases hw

/-- A text starts with no letter if neither of its parts does. -/
theorem isLetter_head?_append {s t : List Char} (hs : ∀ c, s.head? = some c → isLetter c = false)
    (ht : ∀ c, t.head? = some c → isLetter c = false) :
    ∀ c, (s ++ t).head? = some c → isLetter c = false := by
  cases s with
  | nil => exact ht
  | cons d ds => exact hs

theorem isLetter_head?_of_isBlank (h : ∀ c ∈ blanks, isBlank c) :
    ∀ c, blanks.head? = some c → isLetter c = false := fun c hc =>
  isLetter_eq_false_of_isBlank (h c (List.mem_of_mem_head? hc))

theorem nameOf_append_of_isBlank (h : ∀ c ∈ blanks, isBlank c) (s : List Char) :
    nameOf (s ++ blanks) = nameOf s := by
  have hrun := longestRun_takeWhile isLetter s
  refine congrArg String.ofList ?_
  conv_lhs => rw [hrun.eq, List.append_assoc]
  exact takeWhile_append_of_all hrun.all
    (isLetter_head?_append hrun.stop (isLetter_head?_of_isBlank h))

/-- **Blanks at the ends of an opening tag say nothing.** -/
theorem read_of_isBlank_append (h : ∀ c ∈ blanks, isBlank c) {c : Char} (hc : isLetter c)
    (s : List Char) :
    read (blanks ++ c :: s) = (arguments (c :: s)).map (.opening (nameOf (c :: s))) := by
  obtain ⟨ends, hs, hends⟩ := exists_eq_trimEnd_append (c :: s)
  have hstart : trimStart (c :: s) = c :: s := by
    rw [trimStart, List.dropWhile_cons_of_neg]
    simp [isBlank_eq_false_of_isWordChar (isWordChar_of_isLetter hc)]
  have htrim : trim (blanks ++ c :: s) = trimEnd (c :: s) := by
    rw [trim_of_isBlank_append h, trim, hstart]
  have hname : nameOf (trimEnd (c :: s)) = nameOf (c :: s) := by
    conv_rhs => rw [hs, nameOf_append_of_isBlank hends]
  have hpairs : pairs (trimEnd (c :: s)) = pairs (c :: s) := by
    conv_rhs => rw [hs, pairs_append_of_isBlank hends]
  rw [read, htrim]
  split
  next rest hslash =>
    rw [hslash] at hs
    obtain ⟨rfl, -⟩ := List.cons.inj hs
    exact absurd hc (by decide)
  next => rw [arguments, arguments, hname, hpairs]

end Markup.Tag

namespace Markup.Layout

open Grammar Tag

/-! ## What is heard of a tag -/

theorem Assignment.isHeard_iff (a : Assignment) :
    a.isHeard ↔ (∀ c ∈ a.padding.beforeKey.chars, isGap c) ∧
      ∀ c ∈ a.padding.behindKey.chars, isGap c := by
  rw [isHeard, Bool.and_eq_true, List.all_eq_true, List.all_eq_true]

theorem Assignment.trim_spellValue (a : Assignment) : trim a.spellValue = trim a.value.chars := by
  rw [spellValue, trim_append_of_isBlank a.padding.behindValue.isBlank,
    trim_of_isBlank_append a.padding.beforeValue.isBlank]

theorem Assignment.pair?_spell (a : Assignment) : Tag.pair? a.spell = a.pair? := by
  have hiff : ∀ key value, Assigns a.spell key value ↔
      (key = a.key.chars ∧ value = a.spellValue) ∧ a.isHeard := by
    intro key value
    rw [a.isHeard_iff]
    exact assigns_padded_iff a.padding.beforeKey.isBlank a.padding.behindKey.isBlank a.key.ne_nil
      a.key.isWordChar
  unfold pair?
  split
  next h => rw [pair?_of_assigns ((hiff _ _).2 ⟨⟨rfl, rfl⟩, h⟩), a.trim_spellValue]
  next h =>
    rw [Option.eq_none_iff_forall_ne_some]
    rintro ⟨key, text⟩ hp
    obtain ⟨value, hassigns, -⟩ := pair?_eq_some_iff.1 hp
    exact h ((hiff key value).1 hassigns).2

theorem Assignment.not_comma_mem_spell (a : Assignment) : ',' ∉ a.spell := by
  have hkey : ',' ∉ a.key.chars := fun hm => absurd (a.key.isWordChar _ hm) (by decide +kernel)
  have hblanks : ∀ b : Blanks, ',' ∉ b.chars := fun b =>
    not_mem_of_isBlank b.isBlank (by decide)
  simp [spell, spellValue, hkey, hblanks, a.value.noComma]

namespace Opening

/-- A name by itself gives no value. -/
theorem pair?_spellHead (o : Opening) :
    Tag.pair? o.spellHead = o.mainArgument?.bind Assignment.pair? := by
  unfold spellHead
  cases o.mainArgument? with
  | none =>
    rw [Option.map_none, Option.getD_none, pair?_append_of_isBlank o.padding.behindKey.isBlank]
    exact pair?_key o.name.toKey
  | some a => exact a.pair?_spell

theorem not_comma_mem_spellHead (o : Opening) : ',' ∉ o.spellHead := by
  unfold spellHead
  cases o.mainArgument? with
  | none =>
    have hname : ',' ∉ o.name.letters := fun hm => absurd (o.name.isLetter _ hm) (by decide)
    have hblanks : ',' ∉ o.padding.behindKey.chars :=
      not_mem_of_isBlank o.padding.behindKey.isBlank (by decide)
    simp [hname, hblanks]
  | some a => exact a.not_comma_mem_spell

theorem pairs_core (o : Opening) : pairs o.core = o.assignments.filterMap Assignment.pair? := by
  have hcomma : ∀ t ∈ o.spellHead :: o.arguments.map Assignment.spell, ',' ∉ t := by
    intro t ht
    rcases List.mem_cons.1 ht with rfl | ht
    · exact o.not_comma_mem_spellHead
    · obtain ⟨a, -, rfl⟩ := List.mem_map.1 ht
      exact a.not_comma_mem_spell
  have hrest : (o.arguments.map Assignment.spell).filterMap Tag.pair? =
      o.arguments.filterMap Assignment.pair? := by
    rw [List.filterMap_map]
    exact List.filterMap_congr fun a _ => a.pair?_spell
  rw [pairs, core, segments_flatMap hcomma, List.filterMap_cons, o.pair?_spellHead, hrest,
    assignments, List.filterMap_append]
  cases o.mainArgument? with
  | none => rfl
  | some a =>
    rw [Option.bind_some, Option.toList_some, List.filterMap_cons]
    cases a.pair? <;> rfl

/-- The name ends at a blank, at an equals sign, at a comma or with the tag. -/
theorem exists_core_eq (o : Opening) :
    ∃ rest, o.core = o.name.letters ++ rest ∧ ∀ c, rest.head? = some c → isLetter c = false := by
  let more := (o.arguments.map Assignment.spell).flatMap (',' :: ·)
  have hmore : ∀ c, more.head? = some c → isLetter c = false := by
    intro c hc
    cases ha : o.arguments with
    | nil => simp [more, ha] at hc
    | cons a as =>
      simp only [more, ha, List.map_cons, List.flatMap_cons, List.cons_append, List.head?_cons]
        at hc
      obtain rfl := Option.some.inj hc
      decide
  have hblank := isLetter_head?_of_isBlank o.padding.behindKey.isBlank
  cases hmain : o.main with
  | none =>
    refine ⟨o.padding.behindKey.chars ++ more, ?_, isLetter_head?_append hblank hmore⟩
    simp [core, spellHead, mainArgument?, hmain, more]
  | some value =>
    let sign := '=' :: (Assignment.mk o.name.toKey value o.padding).spellValue
    have hsign : ∀ c, (sign ++ more).head? = some c → isLetter c = false := by
      rintro c ⟨rfl⟩
      decide
    refine ⟨o.padding.behindKey.chars ++ (sign ++ more), ?_, isLetter_head?_append hblank hsign⟩
    simp [core, spellHead, mainArgument?, hmain, more, sign, Assignment.spell,
      Assignment.spellValue, Name.toKey, Blanks.none]

theorem nameOf_core (o : Opening) : nameOf o.core = String.ofList o.name.letters := by
  obtain ⟨rest, hcore, hstop⟩ := o.exists_core_eq
  rw [hcore, nameOf, takeWhile_append_of_all o.name.isLetter hstop]

theorem read_spell (o : Opening) :
    read o.spell =
      ((o.assignments.filterMap Assignment.pair?).foldlM addPair
        (Arguments.named (String.ofList o.name.letters))).map
          (.opening (String.ofList o.name.letters)) := by
  obtain ⟨rest, hcore, -⟩ := o.exists_core_eq
  obtain ⟨c, letters, hletters⟩ := List.exists_cons_of_ne_nil o.name.ne_nil
  have hc : isLetter c := o.name.isLetter c (hletters ▸ List.mem_cons_self)
  have hcons : o.core = c :: (letters ++ rest) := by rw [hcore, hletters, List.cons_append]
  rw [spell, hcons, read_of_isBlank_append o.padding.beforeKey.isBlank hc, ← hcons, Tag.arguments,
    o.nameOf_core, o.pairs_core]

/-! ## What is not heard -/

theorem mainArgument?_heard (o : Opening) :
    o.heard.mainArgument? = (o.mainArgument?.filter Assignment.isHeard).map Assignment.compact := by
  unfold heard mainArgument?
  cases o.main with
  | none => rfl
  | some value =>
    rw [Option.map_some, Option.filter_some]
    split <;> rfl

theorem assignments_heard (o : Opening) :
    o.heard.assignments = (o.assignments.filter Assignment.isHeard).map Assignment.compact := by
  rw [assignments, assignments, mainArgument?_heard, List.filter_append, List.map_append]
  congr 1
  cases o.mainArgument? with
  | none => rfl
  | some a =>
    rw [Option.filter_some, Option.toList_some, List.filter_singleton]
    cases a.isHeard <;> rfl

/-- What is not heard might as well not be written, and blanks that do not silence a key might as
well not be written either. -/
theorem filterMap_pair?_heard (o : Opening) :
    o.heard.assignments.filterMap Assignment.pair? =
      o.assignments.filterMap Assignment.pair? := by
  rw [assignments_heard, List.filterMap_map, List.filterMap_filter]
  refine List.filterMap_congr fun a _ => ?_
  unfold Assignment.pair?
  cases a.isHeard <;> rfl

theorem heard_eq_compact {o : Opening} (h : ∀ a ∈ o.assignments, a.isHeard) :
    o.heard = o.compact := by
  have harguments : o.arguments.filter Assignment.isHeard = o.arguments :=
    List.filter_eq_self.2 fun a ha => h a (List.mem_append_right _ ha)
  have hmain : (o.mainArgument?.filter Assignment.isHeard).map Assignment.value = o.main := by
    cases hargument : o.mainArgument? with
    | none => exact (Option.map_eq_none_iff.1 hargument).symm
    | some a =>
      have ha : a.isHeard := h a (by simp [assignments, hargument])
      obtain ⟨value, hvalue, rfl⟩ := Option.map_eq_some_iff.1 hargument
      rw [Option.filter_some, if_pos ha, hvalue]
      rfl
  rw [heard, compact, hmain, harguments]

/-- **Blanks say nothing, but for those that silence a key.** A tag is read, or at fault, as if no
blanks were in it and none of the arguments whose keys have blanks other than spaces and tabs beside
them; so if there are no such arguments, the blanks do not matter. -/
theorem read_spell_law (o : Opening) :
    read o.spell = read o.heard.spell ∧
      ((∀ a ∈ o.assignments, a.isHeard) → read o.spell = read o.compact.spell) := by
  have hheard : read o.spell = read o.heard.spell := by
    rw [read_spell, read_spell, filterMap_pair?_heard]
    rfl
  refine ⟨hheard, fun h => ?_⟩
  rw [hheard, heard_eq_compact h]

example : read "\nwave\n,\tspeed =\nfast\n,x=".toList = .error ⟨"speed", "fast"⟩ := by cbv

/-- A tag that goes on in a second line. -/
def wrapped : Opening :=
  let line : Blanks := ⟨['\n'], List.all_eq_true.1 rfl⟩
  let b : Key := ⟨['b'], by decide, List.all_eq_true.1 (by decide)⟩
  { name := ⟨['a'], by decide, List.all_eq_true.1 (by decide)⟩
    main := none
    padding := .none
    arguments := [⟨b, ⟨['2'], by decide⟩, { Padding.none with beforeKey := line }⟩] }

/-- A line break before a key silences it: the argument is lost without a fault. -/
theorem read_wrapped_ne_compact :
    wrapped.spell = "a,\nb=2".toList ∧ wrapped.compact.spell = "a,b=2".toList ∧
      read wrapped.spell = .ok (.openingWith "a" []) ∧
      read wrapped.spell ≠ read wrapped.compact.spell := by
  have hwrapped : read wrapped.spell = .ok (.openingWith "a" []) := by cbv
  have hcompact : read wrapped.compact.spell =
      ([(['b'], ['2'])].foldlM addPair (Arguments.named "a")).map (.opening "a") :=
    read_spell wrapped.compact
  obtain ⟨x, hx⟩ := Option.isSome_iff_exists.1 (show (Number.ofLiteral? ['2']).isSome by
    decide +kernel)
  have hadd : addPair (Arguments.named "a") (['b'], ['2']) =
      .ok ((Arguments.named "a").insert "b" x) := by
    unfold addPair
    simp only [hx]
  refine ⟨by decide, by decide, hwrapped, fun h => ?_⟩
  rw [hwrapped, hcompact, List.foldlM_cons, hadd] at h
  cases h

end Opening

end Markup.Layout

end GlyphEffects
