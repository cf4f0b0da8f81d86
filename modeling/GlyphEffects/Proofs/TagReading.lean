import GlyphEffects.Proofs.Reading
import GlyphEffects.Proofs.Segments

/-! # How a tag is read

Whatever stands between two braces is a closing tag, an opening tag, or at fault. Which of them it is
follows from its segments: the first value that is no number is its fault, and of the values that it
gives to a key the last one counts. A segment that gives no value to a key says nothing, and hides
nothing behind it.

* `Tag.FirstFault` and `Tag.LastValue`: the first value that is no number, and the last value of a
  key.
* `Tag.arguments_error_iff` is the fault of the arguments, and `Tag.get?_arguments_eq_some_iff` and
  `Tag.get?_arguments_eq_none_iff` are their values.
* `Tag.read_law`: **how every tag is read.**
-/

namespace GlyphEffects.Markup

open GlyphEffects.Text GlyphEffects.Number

namespace Tag

variable {segment key : List Char}

/-! ## Faults -/

/-- The first segment that gives a key a value that is no number gives `text` to `key`, but for
blanks around it. -/
def FirstFault (segments : List (List Char)) (key text : List Char) : Prop :=
  ∃ before segment after value, segments = before ++ segment :: after ∧
    Assigns segment key value ∧ text = trim value ∧ ofLiteral? text = none ∧
    ∀ s ∈ before, ∀ k v, Assigns s k v → ofLiteral? (trim v) ≠ none

theorem fault?_arguments (s : List Char) :
    fault? (arguments s) = (s.splitOn ',').findSome? fun t => (pair? t).bind valueFault? := by
  have hpairs : fault? (arguments s) = (pairs s).findSome? valueFault? := by
    rw [arguments, foldlM_addPair]
    cases (pairs s).findSome? valueFault? <;> rfl
  rw [hpairs, pairs, segments_eq_splitOn, ← List.head?_filterMap, List.filterMap_filterMap,
    List.head?_filterMap]

theorem valueFault?_eq_some_iff {p : List Char × List Char} {e : InvalidArgument} :
    valueFault? p = some e ↔
      ofLiteral? p.2 = none ∧ e = ⟨String.ofList p.1, String.ofList p.2⟩ := by
  unfold valueFault?
  cases ofLiteral? p.2 with
  | some x => simp
  | none => simp [eq_comm]

theorem valueFault?_eq_none_iff {p : List Char × List Char} :
    valueFault? p = none ↔ ofLiteral? p.2 ≠ none := by
  unfold valueFault?
  cases ofLiteral? p.2 <;> simp

theorem pair?_bind_valueFault?_eq_some_iff {e : InvalidArgument} :
    (pair? segment).bind valueFault? = some e ↔
      ∃ key value, Assigns segment key value ∧ ofLiteral? (trim value) = none ∧
        e = ⟨String.ofList key, String.ofList (trim value)⟩ := by
  simp only [pair?_bind_eq_some_iff, valueFault?_eq_some_iff]

theorem pair?_bind_valueFault?_eq_none_iff :
    (pair? segment).bind valueFault? = none ↔
      ∀ key value, Assigns segment key value → ofLiteral? (trim value) ≠ none := by
  simp only [pair?_bind_eq_none_iff, valueFault?_eq_none_iff]

theorem arguments_error_iff {s : List Char} {e : InvalidArgument} :
    arguments s = .error e ↔
      ∃ key text, FirstFault (s.splitOn ',') key text ∧
        e = ⟨String.ofList key, String.ofList text⟩ := by
  rw [← fault?_eq_some_iff, fault?_arguments, List.findSome?_eq_some_iff]
  constructor
  · rintro ⟨before, segment, after, hs, he, hbefore⟩
    obtain ⟨key, value, h, hvalue, rfl⟩ := pair?_bind_valueFault?_eq_some_iff.1 he
    exact ⟨key, _, ⟨before, segment, after, value, hs, h, rfl, hvalue, fun s hs =>
      pair?_bind_valueFault?_eq_none_iff.1 (hbefore s hs)⟩, rfl⟩
  · rintro ⟨key, _, ⟨before, segment, after, value, hs, h, rfl, hvalue, hbefore⟩, rfl⟩
    refine ⟨before, segment, after, hs, ?_, fun s hs =>
      pair?_bind_valueFault?_eq_none_iff.2 (hbefore s hs)⟩
    exact pair?_bind_valueFault?_eq_some_iff.2 ⟨key, value, h, hvalue, rfl⟩

/-- A tag has no fault iff every value in it is a number. -/
theorem fault?_arguments_eq_none_iff {s : List Char} :
    fault? (arguments s) = none ↔
      ∀ segment ∈ s.splitOn ',', ∀ key value, Assigns segment key value →
        ofLiteral? (trim value) ≠ none := by
  simp only [fault?_arguments, List.findSome?_eq_none_iff, pair?_bind_valueFault?_eq_none_iff]

/-! ## Values -/

/-- The last segment that gives a value to the key gives it the number. -/
def LastValue (segments : List (List Char)) (key : List Char) (x : Float) : Prop :=
  ∃ before segment after value, segments = before ++ segment :: after ∧
    Assigns segment key value ∧ ofLiteral? (trim value) = some x ∧
    ∀ s ∈ after, ∀ v, ¬ Assigns s key v

/-- The number that a segment gives to the key. -/
def valueOf? (key segment : List Char) : Option Float :=
  (pair? segment).bind fun p => if p.1 = key then ofLiteral? p.2 else none

theorem valueOf?_eq_some_iff {x : Float} :
    valueOf? key segment = some x ↔
      ∃ value, Assigns segment key value ∧ ofLiteral? (trim value) = some x := by
  rw [valueOf?, pair?_bind_eq_some_iff]
  constructor
  · rintro ⟨k, value, h, hx⟩
    split at hx
    next hk => exact ⟨value, hk ▸ h, hx⟩
    next => cases hx
  · rintro ⟨value, h, hx⟩
    exact ⟨key, value, h, by rwa [if_pos rfl]⟩

theorem map_filter_number? (p : List Char × List Char) (key : List Char) :
    ((number? p).filter (·.1 = String.ofList key)).map Prod.snd =
      if p.1 = key then ofLiteral? p.2 else none := by
  unfold number?
  cases ofLiteral? p.2 with
  | none => simp
  | some x => by_cases hk : p.1 = key <;> simp [Option.filter, String.ofList_inj, hk]

theorem get?_arguments {s : List Char} {args : Arguments} (h : arguments s = .ok args) :
    args.get? (String.ofList key) = (s.splitOn ',').reverse.findSome? (valueOf? key) := by
  rw [eq_insertMany_of_arguments h, Arguments.get?_insertMany, Arguments.get?_named,
    Option.or_none, pairs, segments_eq_splitOn, ← List.getLast?_map, List.filterMap_filterMap,
    List.filter_filterMap, List.map_filterMap, List.getLast?_filterMap]
  congr 1
  funext segment
  rw [valueOf?]
  cases pair? segment with
  | none => rfl
  | some p => exact map_filter_number? p key

section Values

variable {s : List Char} {args : Arguments}

theorem exists_valueOf?_of_assigns (h : arguments s = .ok args) {value : List Char}
    (hs : segment ∈ s.splitOn ',') (ha : Assigns segment key value) :
    ∃ x, valueOf? key segment = some x := by
  have hnone : fault? (arguments s) = none := by rw [h]; rfl
  obtain ⟨x, hx⟩ := Option.ne_none_iff_exists'.1
    (fault?_arguments_eq_none_iff.1 hnone segment hs key value ha)
  exact ⟨x, valueOf?_eq_some_iff.2 ⟨value, ha, hx⟩⟩

theorem valueOf?_eq_none_iff (h : arguments s = .ok args) (hs : segment ∈ s.splitOn ',') :
    valueOf? key segment = none ↔ ∀ value, ¬ Assigns segment key value := by
  constructor
  · intro hnone value ha
    obtain ⟨x, hx⟩ := exists_valueOf?_of_assigns h hs ha
    rw [hnone] at hx
    cases hx
  · intro hno
    rw [Option.eq_none_iff_forall_ne_some]
    intro x hx
    obtain ⟨value, ha, -⟩ := valueOf?_eq_some_iff.1 hx
    exact hno value ha

theorem get?_arguments_eq_some_iff (h : arguments s = .ok args) {x : Float} :
    args.get? (String.ofList key) = some x ↔ LastValue (s.splitOn ',') key x := by
  rw [get?_arguments h, List.findSome?_eq_some_iff]
  constructor
  · rintro ⟨after, segment, before, hs, hx, hafter⟩
    have hsplit : s.splitOn ',' = before.reverse ++ segment :: after.reverse := by
      rw [← List.reverse_reverse (s.splitOn ','), hs]
      simp
    obtain ⟨value, ha, hx⟩ := valueOf?_eq_some_iff.1 hx
    refine ⟨before.reverse, segment, after.reverse, value, hsplit, ha, hx, fun t ht => ?_⟩
    exact (valueOf?_eq_none_iff h (by rw [hsplit]; simp_all)).1
      (hafter t (List.mem_reverse.1 ht))
  · rintro ⟨before, segment, after, value, hs, ha, hx, hafter⟩
    refine ⟨after.reverse, segment, before.reverse, by rw [hs]; simp,
      valueOf?_eq_some_iff.2 ⟨value, ha, hx⟩, fun t ht => ?_⟩
    have ht := List.mem_reverse.1 ht
    exact (valueOf?_eq_none_iff h (by rw [hs]; simp [ht])).2 (hafter t ht)

theorem get?_arguments_eq_none_iff (h : arguments s = .ok args) :
    args.get? (String.ofList key) = none ↔
      ∀ segment ∈ s.splitOn ',', ∀ value, ¬ Assigns segment key value := by
  rw [get?_arguments h, List.findSome?_eq_none_iff]
  simp only [List.mem_reverse]
  exact forall₂_congr fun segment hs => valueOf?_eq_none_iff h hs

end Values

/-! ## Tags -/

theorem read_eq_map {body : List Char} (h : ∀ rest, trim body ≠ '/' :: rest) :
    read body = (arguments (trim body)).map (.opening (nameOf (trim body))) := by
  unfold read
  split
  next rest hr => exact absurd hr (h rest)
  next => rfl

theorem read_error_iff {body : List Char} (h : ∀ rest, trim body ≠ '/' :: rest)
    {e : InvalidArgument} : read body = .error e ↔ arguments (trim body) = .error e := by
  rw [read_eq_map h]
  cases arguments (trim body) <;> simp [Except.map]

/-- **How every tag is read.** Let the blanks around a tag be taken away. If it starts with a slash
then it is a closing tag, whatever follows its name: the longest run of letters behind the slash and
the blanks after it. Otherwise it is at fault iff one of its segments gives a key a value that is no
number, and the fault names the key and the value of the first such segment. If there is none, it is
an opening tag, whose name, which its arguments carry too, is the longest run of letters it starts
with; a key has the number that the last segment for it gives, and none if there is no segment for
it. -/
theorem read_law (body : List Char) :
    (∀ rest, trim body = '/' :: rest →
      ∃ name after, LongestRun isLetter (trimStart rest) name after ∧
        read body = .ok (.closing (String.ofList name))) ∧
    ((∀ rest, trim body ≠ '/' :: rest) →
      ((∃ e, read body = .error e) ↔
        ∃ segment ∈ (trim body).splitOn ',', ∃ key value, Assigns segment key value ∧
          ofLiteral? (trim value) = none) ∧
      (∀ e, read body = .error e ↔
        ∃ key text, FirstFault ((trim body).splitOn ',') key text ∧
          e = ⟨String.ofList key, String.ofList text⟩) ∧
      ∀ t, read body = .ok t →
        ∃ name rest args, LongestRun isLetter (trim body) name rest ∧
          t = .opening (String.ofList name) args ∧ args.name = String.ofList name ∧
          (∀ key x, args.get? (String.ofList key) = some x ↔
            LastValue ((trim body).splitOn ',') key x) ∧
          ∀ key, args.get? (String.ofList key) = none ↔
            ∀ segment ∈ (trim body).splitOn ',', ∀ value, ¬ Assigns segment key value) := by
  constructor
  · intro rest h
    refine ⟨_, _, longestRun_takeWhile isLetter (trimStart rest), ?_⟩
    rw [read, h]
    rfl
  · intro h
    refine ⟨?_, fun e => (read_error_iff h).trans arguments_error_iff, fun t ht => ?_⟩
    · have hfault : (∃ e, read body = .error e) ↔ fault? (arguments (trim body)) ≠ none := by
        simp only [read_error_iff h, ← fault?_eq_some_iff, Option.ne_none_iff_exists']
      rw [hfault, ne_eq, fault?_arguments_eq_none_iff]
      push Not
      rfl
    · obtain ⟨rest, hrest, -⟩ | ⟨args, hargs, rfl⟩ := read_cases ht
      · exact absurd hrest (h rest)
      · exact ⟨_, _, args, longestRun_takeWhile isLetter (trim body), rfl, name_arguments hargs,
          fun key x => get?_arguments_eq_some_iff hargs,
          fun key => get?_arguments_eq_none_iff hargs⟩

example : read " wave, =2, speed= fast ,size=big".toList = .error ⟨"speed", "fast"⟩ := by cbv

end Tag

end GlyphEffects.Markup
