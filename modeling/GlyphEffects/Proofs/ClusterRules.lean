import GlyphEffects.Proofs.Segments
import GlyphEffects.Text.Cluster

/-! # The rules of clusters

Which characters belong together is a matter of the whole text before them: a pictograph goes on
behind a joiner that stands behind a pictograph, however many marks are between them, a consonant
behind a linker that stands behind a consonant, and half of a flag behind an odd number of halves.
Yet all that such a rule looks back at is held together itself. So nothing before a cluster decides
where it ends, and a cluster that stands by itself is not cut.

* `Cluster.Joins`: the rules, as they speak of the text before a character.
* `Cluster.joins_iff_goesOn`: they are those by which a text is cut.
* `Cluster.Apart`: what a cluster and the text before it have to do with each other.
  `Apart.goesOn_append`: **the text before a cluster does not decide whether it goes on.**
* `Cluster.endsAt_iff_not_joins` and `Cluster.cut_eq_iff`: **clusters end where the rules let them
  end**, and a text is cut in no other way.
* `Cluster.cut_eq_singleton`: **a cluster by itself is one cluster.**
-/

namespace GlyphEffects.Text

open GlyphEffects.Markup

namespace Break

variable {a b : Break}

theorem separates_of_attaches (h : b.attaches) : b.separates = false := by
  cases b <;> first | rfl | cases h

theorem attaches_of_isMark (h : b.isMark) : b.attaches := by
  cases b <;> first | rfl | cases h

theorem attaches_of_inConjunct (h : b.inConjunct) : b.attaches := by
  cases b <;> first | rfl | cases h

theorem separates_of_inSyllable (h : inSyllable a b) :
    a.separates = false ∧ b.separates = false := by
  cases a <;> cases b <;> first | exact ⟨rfl, rfl⟩ | cases h

end Break

namespace Cluster

/-! ## The rules -/

/-- A character belongs together with the text before it: the line feed with the carriage return;
the parts of a syllable; signs that attach to anything but line ends and controls; all but these
with a prepended sign; consonants that are linked; pictographs that are joined; and the second half
of a flag with the first, where the halves are counted from the last character that is none. -/
inductive Joins : List Char → Char → Prop
  | lineEnd {s a c} : Break.of a = .carriageReturn → Break.of c = .lineFeed → Joins (s ++ [a]) c
  | syllable {s a c} : Break.inSyllable (.of a) (.of c) → Joins (s ++ [a]) c
  | attached {s a c} : (Break.of a).separates = false → (Break.of c).attaches → Joins (s ++ [a]) c
  | prepended {s a c} : Break.of a = .prepended → (Break.of c).separates = false →
      Joins (s ++ [a]) c
  | linked {s k m c} : Break.of k = .consonant → (∀ x ∈ m, (Break.of x).inConjunct) →
      (∃ x ∈ m, Break.of x = .linker) → Break.of c = .consonant → Joins (s ++ k :: m) c
  | joined {s p m j c} : Break.of p = .pictograph → (∀ x ∈ m, (Break.of x).isMark) →
      Break.of j = .joiner → Break.of c = .pictograph → Joins (s ++ p :: m ++ [j]) c
  | paired {s m c} : (∀ x ∈ s.getLast?, Break.of x ≠ .regional) →
      (∀ x ∈ m, Break.of x = .regional) → m.length % 2 = 1 → Break.of c = .regional →
      Joins (s ++ m) c

variable {s m b cs rest cluster earlier : List Char} {a c : Char}

theorem endsInPictograph_eq (h : LongestRun (fun c => (Break.of c).isMark) cs m rest) :
    endsInPictograph cs = decide (rest.head?.map Break.of = some .pictograph) := by
  rw [endsInPictograph, h.dropWhile_eq]

theorem endsInLinked_eq (h : LongestRun (fun c => (Break.of c).inConjunct) cs m rest) :
    endsInLinked cs = (m.any (fun c => Break.of c = .linker) &&
      decide (rest.head?.map Break.of = some .consonant)) := by
  rw [endsInLinked, h.takeWhile_eq, h.dropWhile_eq]

theorem endsInHalfFlag_eq (h : LongestRun (fun c => Break.of c = .regional) cs m rest) :
    endsInHalfFlag cs = decide (m.length % 2 = 1) := by
  rw [endsInHalfFlag, h.takeWhile_eq]

theorem head_eq_some_iff {k : Break} :
    cs.head?.map Break.of = some k ↔ ∃ c rest, Break.of c = k ∧ cs = c :: rest := by
  cases cs with
  | nil => simp
  | cons c cs => simp

theorem endsInPictograph_iff :
    endsInPictograph cs ↔ ∃ m p rest, (∀ x ∈ m, (Break.of x).isMark) ∧
      Break.of p = .pictograph ∧ cs = m ++ p :: rest := by
  constructor
  · intro h
    have hrun := longestRun_takeWhile (fun c => (Break.of c).isMark) cs
    rw [endsInPictograph_eq hrun, decide_eq_true_iff, head_eq_some_iff] at h
    obtain ⟨p, rest, hp, hrest⟩ := h
    exact ⟨_, p, rest, hrun.all, hp, hrest ▸ hrun.eq⟩
  · rintro ⟨m, p, rest, hm, hp, rfl⟩
    have hmark : (Break.of p).isMark = false := by rw [hp]; rfl
    rw [endsInPictograph_eq (longestRun_append_cons hm hmark rest), decide_eq_true_iff]
    exact congrArg some hp

theorem endsInLinked_iff :
    endsInLinked cs ↔ ∃ m k rest, (∀ x ∈ m, (Break.of x).inConjunct) ∧
      (∃ x ∈ m, Break.of x = .linker) ∧ Break.of k = .consonant ∧ cs = m ++ k :: rest := by
  constructor
  · intro h
    have hrun := longestRun_takeWhile (fun c => (Break.of c).inConjunct) cs
    rw [endsInLinked_eq hrun, Bool.and_eq_true, List.any_eq_true, decide_eq_true_iff,
      head_eq_some_iff] at h
    obtain ⟨⟨x, hx, hlinker⟩, k, rest, hk, hrest⟩ := h
    exact ⟨_, k, rest, hrun.all, ⟨x, hx, of_decide_eq_true hlinker⟩, hk, hrest ▸ hrun.eq⟩
  · rintro ⟨m, k, rest, hm, ⟨x, hx, hlinker⟩, hk, rfl⟩
    have hsign : (Break.of k).inConjunct = false := by rw [hk]; rfl
    rw [endsInLinked_eq (longestRun_append_cons hm hsign rest), Bool.and_eq_true, List.any_eq_true,
      decide_eq_true_iff]
    exact ⟨⟨x, hx, decide_eq_true hlinker⟩, congrArg some hk⟩

theorem endsInHalfFlag_iff :
    endsInHalfFlag cs ↔ ∃ m rest, (∀ x ∈ rest.head?, Break.of x ≠ .regional) ∧
      (∀ x ∈ m, Break.of x = .regional) ∧ m.length % 2 = 1 ∧ cs = m ++ rest := by
  constructor
  · intro h
    have hrun := longestRun_takeWhile (fun c => Break.of c = .regional) cs
    rw [endsInHalfFlag_eq hrun, decide_eq_true_iff] at h
    exact ⟨_, _, fun x hx => of_decide_eq_false (hrun.stop x hx),
      fun x hx => of_decide_eq_true (hrun.all x hx), h, hrun.eq⟩
  · rintro ⟨m, rest, hrest, hm, hodd, rfl⟩
    have hrun : LongestRun (fun c => Break.of c = .regional) (m ++ rest) m rest :=
      ⟨rfl, fun x hx => decide_eq_true (hm x hx), fun x hx => decide_eq_false (hrest x hx)⟩
    rw [endsInHalfFlag_eq hrun, decide_eq_true hodd]

/-- What lets a character go on, latest character first. -/
theorem goesOn_cons_iff :
    goesOn (a :: b) c ↔
      Break.of a = .carriageReturn ∧ Break.of c = .lineFeed ∨
        (Break.of a).separates = false ∧ (Break.of c).separates = false ∧
          ((Break.of a).meets (Break.of c) ∨
            (Break.of c = .pictograph ∧ Break.of a = .joiner ∧ endsInPictograph b) ∨
            (Break.of c = .regional ∧ endsInHalfFlag (a :: b)) ∨
            (Break.of c = .consonant ∧ endsInLinked (a :: b))) := by
  rw [goesOn, follows]
  split
  next h => exact iff_of_true rfl (.inl h)
  next hline =>
    split
    next hstop =>
      refine iff_of_false Bool.false_ne_true ?_
      rintro (h | ⟨ha, hc, -⟩)
      · exact hline h
      · rw [ha, hc] at hstop
        cases hstop
    next hstop =>
      rw [Bool.or_eq_true, not_or, Bool.not_eq_true, Bool.not_eq_true] at hstop
      simp only [Bool.or_eq_true, Bool.and_eq_true, decide_eq_true_iff, hline, hstop, false_or,
        true_and, or_assoc, and_assoc]

theorem goesOn_of_endsInLinked (h : endsInLinked cs) (hc : Break.of c = .consonant) :
    goesOn cs c := by
  obtain ⟨m, k, rest, hm, ⟨x, hx, -⟩, -, rfl⟩ := endsInLinked_iff.1 h
  cases m with
  | nil => cases hx
  | cons a m =>
    have ha := Break.separates_of_attaches (Break.attaches_of_inConjunct (hm a List.mem_cons_self))
    exact goesOn_cons_iff.2 (.inr ⟨ha, by rw [hc]; rfl, .inr (.inr (.inr ⟨hc, h⟩))⟩)

theorem goesOn_of_endsInHalfFlag (h : endsInHalfFlag cs) (hc : Break.of c = .regional) :
    goesOn cs c := by
  obtain ⟨m, rest, -, hm, hodd, rfl⟩ := endsInHalfFlag_iff.1 h
  cases m with
  | nil => cases hodd
  | cons a m =>
    have ha : (Break.of a).separates = false := by rw [hm a List.mem_cons_self]; rfl
    exact goesOn_cons_iff.2 (.inr ⟨ha, by rw [hc]; rfl, .inr (.inr (.inl ⟨hc, h⟩))⟩)

/-- Whatever joins a character to a text is met reading the text from its end. -/
theorem goesOn_of_joins (h : Joins s c) : goesOn s.reverse c := by
  cases h with
  | lineEnd ha hc =>
    rw [List.reverse_concat, goesOn_cons_iff]
    exact .inl ⟨ha, hc⟩
  | syllable h =>
    obtain ⟨ha, hc⟩ := Break.separates_of_inSyllable h
    rw [List.reverse_concat, goesOn_cons_iff, Break.meets, h]
    exact .inr ⟨ha, hc, .inl rfl⟩
  | attached ha hc =>
    rw [List.reverse_concat, goesOn_cons_iff, Break.meets, hc, Bool.or_true]
    exact .inr ⟨ha, Break.separates_of_attaches hc, .inl rfl⟩
  | prepended ha hc =>
    rw [List.reverse_concat, goesOn_cons_iff, Break.meets, ha, decide_eq_true rfl, Bool.or_true]
    exact .inr ⟨rfl, hc, .inl rfl⟩
  | @linked t k m _ hk hm hlinker hc =>
    refine goesOn_of_endsInLinked (endsInLinked_iff.2 ⟨m.reverse, k, t.reverse, ?_, ?_, hk, ?_⟩) hc
    · exact fun x hx => hm x (List.mem_reverse.1 hx)
    · obtain ⟨x, hx, hlink⟩ := hlinker
      exact ⟨x, List.mem_reverse.2 hx, hlink⟩
    · rw [List.reverse_append, List.reverse_cons, List.append_assoc]
      rfl
  | @joined t p m j _ hp hm hj hc =>
    have hends : endsInPictograph (t ++ p :: m).reverse := by
      refine endsInPictograph_iff.2 ⟨m.reverse, p, t.reverse, ?_, hp, ?_⟩
      · exact fun x hx => hm x (List.mem_reverse.1 hx)
      · rw [List.reverse_append, List.reverse_cons, List.append_assoc]
        rfl
    rw [List.reverse_concat, goesOn_cons_iff]
    exact .inr ⟨by rw [hj]; rfl, by rw [hc]; rfl, .inr (.inl ⟨hc, hj, hends⟩)⟩
  | @paired t m _ ht hm hodd hc =>
    refine goesOn_of_endsInHalfFlag
      (endsInHalfFlag_iff.2 ⟨m.reverse, t.reverse, ?_, ?_, ?_, List.reverse_append⟩) hc
    · rwa [List.head?_reverse]
    · exact fun x hx => hm x (List.mem_reverse.1 hx)
    · rwa [List.length_reverse]

theorem joins_of_goesOn (h : goesOn s.reverse c) : Joins s c := by
  obtain rfl | ⟨t, a, rfl⟩ := s.eq_nil_or_concat'
  · cases h
  rw [List.reverse_concat] at h
  obtain ⟨ha, hc⟩ | ⟨ha, hc, hmeets | ⟨hnext, hj, hends⟩ | ⟨hnext, hends⟩ | ⟨hnext, hends⟩⟩ :=
    goesOn_cons_iff.1 h
  · exact .lineEnd ha hc
  · rw [Break.meets, Bool.or_eq_true, Bool.or_eq_true, decide_eq_true_iff] at hmeets
    obtain (hsyllable | hattaches) | hprepended := hmeets
    · exact .syllable hsyllable
    · exact .attached ha hattaches
    · exact .prepended hprepended hc
  · obtain ⟨m, p, rest, hm, hp, ht⟩ := endsInPictograph_iff.1 hends
    have htext : t = rest.reverse ++ p :: m.reverse := by
      rw [← t.reverse_reverse, ht, List.reverse_append, List.reverse_cons, List.append_assoc]
      rfl
    rw [htext]
    exact .joined hp (fun x hx => hm x (List.mem_reverse.1 hx)) hj hnext
  · obtain ⟨m, rest, hrest, hm, hodd, ht⟩ := endsInHalfFlag_iff.1 hends
    have htext : t ++ [a] = rest.reverse ++ m.reverse := by
      rw [← (t ++ [a]).reverse_reverse, List.reverse_concat, ht, List.reverse_append]
    rw [htext]
    refine .paired ?_ (fun x hx => hm x (List.mem_reverse.1 hx)) ?_ hnext
    · rwa [List.getLast?_reverse]
    · rwa [List.length_reverse]
  · obtain ⟨m, k, rest, hm, ⟨x, hx, hlinker⟩, hk, ht⟩ := endsInLinked_iff.1 hends
    have htext : t ++ [a] = rest.reverse ++ k :: m.reverse := by
      rw [← (t ++ [a]).reverse_reverse, List.reverse_concat, ht, List.reverse_append,
        List.reverse_cons, List.append_assoc]
      rfl
    rw [htext]
    exact .linked hk (fun y hy => hm y (List.mem_reverse.1 hy)) ⟨x, List.mem_reverse.2 hx, hlinker⟩
      hnext

/-- **The rules are those by which a text is cut.** -/
theorem joins_iff_goesOn : Joins s c ↔ goesOn s.reverse c :=
  ⟨goesOn_of_joins, joins_of_goesOn⟩

/-! ## Clusters and the text before them -/

/-- What a cluster and the text before it, both latest first, have to do with each other. What is
attached is not the first of its cluster unless nothing before it can carry it, and no half of a flag
is left over for a cluster of halves. -/
structure Apart (earlier cluster : List Char) : Prop where
  attached : ∀ x ∈ cluster.getLast?, (Break.of x).attaches →
    ∀ y ∈ earlier.head?, (Break.of y).separates
  paired : (∀ x ∈ cluster, Break.of x = .regional) → endsInHalfFlag earlier = false

namespace Apart

theorem start (c : Char) : Apart [] [c] where
  attached _ _ _ _ hy := by cases hy
  paired _ := rfl

/-- A cluster that goes on starts as it did. -/
theorem grow (h : Apart earlier (a :: b)) (c : Char) : Apart earlier (c :: a :: b) where
  attached x hx := h.attached x (by rwa [List.getLast?_cons_cons] at hx)
  paired hall := h.paired fun x hx => hall x (List.mem_cons_of_mem c hx)

/-- Before a cluster in which all is attached the text has ended. -/
theorem separates_head (h : Apart earlier cluster) (hne : cluster ≠ [])
    (hall : ∀ x ∈ cluster, (Break.of x).attaches) :
    ∀ y ∈ earlier.head?, (Break.of y).separates :=
  h.attached _ (List.getLast?_eq_some_getLast hne) (hall _ (List.getLast_mem hne))

/-- A run of attached characters at the end of a cluster ends in the cluster, or where the text before
the cluster has ended. -/
theorem exists_longestRun (last : List Char) {p : Char → Bool}
    (hp : ∀ c, p c → (Break.of c).attaches) (h : Apart earlier (last ++ b)) (hne : last ++ b ≠ [])
    (hlast : ∀ x ∈ last, (Break.of x).attaches) (hrun : LongestRun p b m rest) :
    ∃ onward, LongestRun p (b ++ earlier) m onward ∧ ∀ k : Break, k.separates = false →
      decide (onward.head?.map Break.of = some k) = decide (rest.head?.map Break.of = some k) := by
  cases rest with
  | nil =>
    have hb : b = m := hrun.eq.trans (List.append_nil m)
    have hhead := h.separates_head hne <| List.forall_mem_append.2
      ⟨hlast, fun x hx => hp x (hrun.all x (hb ▸ hx))⟩
    refine ⟨earlier, ⟨by rw [hb], hrun.all, fun y hy => ?_⟩, fun k hk => ?_⟩
    · by_contra hy'
      have hfalse := Break.separates_of_attaches (hp y (Bool.eq_true_of_not_eq_false hy'))
      rw [hhead y hy] at hfalse
      cases hfalse
    · refine decide_eq_decide.2 (iff_of_false ?_ nofun)
      rw [head_eq_some_iff]
      rintro ⟨y, rest, rfl, rfl⟩
      rw [hhead y rfl] at hk
      cases hk
  | cons x rest => exact ⟨_, hrun.append (List.cons_ne_nil x rest) earlier, fun k _ => rfl⟩

theorem joined_iff (h : Apart earlier (a :: b)) :
    Break.of a = .joiner ∧ endsInPictograph (b ++ earlier) ↔
      Break.of a = .joiner ∧ endsInPictograph b := by
  refine and_congr_right fun ha => ?_
  have hrun := longestRun_takeWhile (fun c => (Break.of c).isMark) b
  have hjoiner : ∀ x ∈ [a], (Break.of x).attaches := by
    intro x hx
    rw [List.mem_singleton.1 hx, ha]
    rfl
  obtain ⟨onward, honward, hhead⟩ := exists_longestRun [a]
    (fun c hc => Break.attaches_of_isMark hc) h (List.cons_ne_nil a b) hjoiner hrun
  rw [endsInPictograph_eq honward, endsInPictograph_eq hrun, hhead _ rfl]

theorem endsInLinked_append (h : Apart earlier cluster) (hne : cluster ≠ []) :
    endsInLinked (cluster ++ earlier) = endsInLinked cluster := by
  have hrun := longestRun_takeWhile (fun c => (Break.of c).inConjunct) cluster
  obtain ⟨onward, honward, hhead⟩ := exists_longestRun []
    (fun c hc => Break.attaches_of_inConjunct hc) h hne nofun hrun
  rw [endsInLinked_eq honward, endsInLinked_eq hrun, hhead _ rfl]

theorem endsInHalfFlag_append (h : Apart earlier cluster) :
    endsInHalfFlag (cluster ++ earlier) = endsInHalfFlag cluster := by
  have hrun := longestRun_takeWhile (fun c => Break.of c = .regional) cluster
  by_cases hall : cluster.dropWhile (fun c => Break.of c = .regional) = []
  · -- a run of halves goes on into the text before, by an even number
    have hhalves : ∀ x ∈ cluster, decide (Break.of x = .regional) = true :=
      List.dropWhile_eq_nil_iff.1 hall
    have hearlier := longestRun_takeWhile (fun c => Break.of c = .regional) earlier
    have heven := h.paired fun x hx => of_decide_eq_true (hhalves x hx)
    rw [endsInHalfFlag_eq hearlier, decide_eq_false_iff_not] at heven
    have hwhole : LongestRun (fun c => Break.of c = .regional) (cluster ++ earlier)
        (cluster ++ earlier.takeWhile fun c => Break.of c = .regional)
        (earlier.dropWhile fun c => Break.of c = .regional) :=
      ⟨by rw [List.append_assoc, ← hearlier.eq],
        List.forall_mem_append.2 ⟨hhalves, hearlier.all⟩, hearlier.stop⟩
    have hself : LongestRun (fun c => Break.of c = .regional) cluster cluster [] :=
      ⟨(List.append_nil _).symm, hhalves, fun _ hx => by cases hx⟩
    rw [endsInHalfFlag_eq hwhole, endsInHalfFlag_eq hself, List.length_append, decide_eq_decide]
    omega
  · rw [endsInHalfFlag_eq (hrun.append hall earlier), endsInHalfFlag_eq hrun]

/-- **The text before a cluster does not decide whether it goes on.** -/
theorem goesOn_append (h : Apart earlier (a :: b)) (c : Char) :
    goesOn (a :: b ++ earlier) c = goesOn (a :: b) c := by
  have hlinked := h.endsInLinked_append (List.cons_ne_nil a b)
  have hhalf := h.endsInHalfFlag_append
  rw [List.cons_append] at hlinked hhalf ⊢
  rw [Bool.eq_iff_iff, goesOn_cons_iff, goesOn_cons_iff, hlinked, hhalf, h.joined_iff]

/-- A character that does not go on a cluster starts one that stands apart. -/
theorem next (h : Apart earlier (a :: b)) (hc : goesOn (a :: b) c = false) :
    Apart (a :: b ++ earlier) [c] where
  attached x hx hattaches y hy := by
    obtain rfl : c = x := Option.some.inj hx
    obtain rfl : a = y := Option.some.inj hy
    by_contra ha
    rw [Bool.not_eq_true] at ha
    refine Bool.false_ne_true (hc.symm.trans (goesOn_cons_iff.2 (.inr ⟨ha, ?_, .inl ?_⟩)))
    · exact Break.separates_of_attaches hattaches
    · rw [Break.meets, hattaches, Bool.or_true]
      rfl
  paired hall := by
    have hregional := hall c (List.mem_singleton_self c)
    by_contra hhalf
    rw [Bool.not_eq_false, h.endsInHalfFlag_append] at hhalf
    exact Bool.false_ne_true (hc.symm.trans (goesOn_of_endsInHalfFlag hhalf hregional))

end Apart

/-! ## Where parts end -/

/-- One of the parts of a text ends behind `pre`. -/
def EndsAt (L : List (List Char)) (pre : List Char) : Prop := ∃ M N, L = M ++ N ∧ M.flatten = pre

section Parts

variable {L K : List (List Char)} {g k pre : List Char}

theorem EndsAt.isPrefix_head (h : EndsAt (g :: L) pre) (hpre : pre ≠ []) : g <+: pre := by
  obtain ⟨M, N, hL, rfl⟩ := h
  cases M with
  | nil => exact absurd rfl hpre
  | cons m M =>
    obtain ⟨rfl, -⟩ := List.cons.inj hL
    exact List.prefix_append _ _

theorem endsAt_cons_append (hg : g ≠ []) : EndsAt (g :: L) (g ++ pre) ↔ EndsAt L pre := by
  constructor
  · rintro ⟨_ | ⟨m, M⟩, N, hL, hflat⟩
    · exact absurd (List.append_eq_nil_iff.1 hflat.symm).1 hg
    · obtain ⟨rfl, hrest⟩ := List.cons.inj hL
      exact ⟨M, N, hrest, List.append_cancel_left hflat⟩
  · rintro ⟨M, N, rfl, rfl⟩
    exact ⟨g :: M, N, rfl, rfl⟩

/-- Of two ways to cut one text the first part of the one begins the first part of the other, if the
one ends wherever the other does. -/
theorem head_prefix_of_endsAt (hg : g ≠ []) (hflat : g ++ L.flatten = k ++ K.flatten)
    (hends : ∀ c post, L.flatten = c :: post → EndsAt (k :: K) g) : k <+: g := by
  cases hL : L.flatten with
  | nil =>
    rw [hL, List.append_nil] at hflat
    rw [hflat]
    exact List.prefix_append _ _
  | cons c post => exact (hends c post hL).isPrefix_head hg

/-- A text is cut in one way only when it is known where the parts end. -/
theorem eq_of_endsAt (hL : [] ∉ L) (hK : [] ∉ K) (hflat : L.flatten = K.flatten)
    (hends : ∀ pre c post, L.flatten = pre ++ c :: post → pre ≠ [] →
      (EndsAt L pre ↔ EndsAt K pre)) : L = K := by
  induction L generalizing K with
  | nil =>
    cases K with
    | nil => rfl
    | cons k K =>
      exact absurd (List.append_eq_nil_iff.1 hflat.symm).1 fun hk => hK (hk ▸ List.mem_cons_self)
  | cons g L ih =>
    have hg : g ≠ [] := fun hg => hL (hg ▸ List.mem_cons_self)
    cases K with
    | nil => exact absurd (List.append_eq_nil_iff.1 hflat).1 hg
    | cons k K =>
      have hk : k ≠ [] := fun hk => hK (hk ▸ List.mem_cons_self)
      have hself (m : List Char) (M : List (List Char)) : EndsAt (m :: M) m :=
        ⟨[m], M, rfl, List.append_nil m⟩
      have hkg : k <+: g := head_prefix_of_endsAt hg hflat fun c post hpost =>
        (hends g c post (by rw [List.flatten_cons, hpost]) hg).1 (hself g L)
      have hgk : g <+: k := head_prefix_of_endsAt hk hflat.symm fun c post hpost =>
        (hends k c post (by rw [hflat, List.flatten_cons, hpost]) hk).2 (hself k K)
      obtain rfl : g = k := hgk.eq_of_length_le hkg.length_le
      have hrest := List.append_cancel_left hflat
      rw [ih (fun h => hL (List.mem_cons_of_mem g h)) (fun h => hK (List.mem_cons_of_mem g h)) hrest]
      intro pre c post hpost hpre
      rw [← endsAt_cons_append hg, ← endsAt_cons_append (L := K) hg]
      refine hends (g ++ pre) c post ?_ (List.append_ne_nil_of_left_ne_nil hg pre)
      rw [List.flatten_cons, hpost, List.append_assoc]

end Parts

/-! ## Where clusters end -/

/-- What is open goes on as the first cluster. -/
theorem exists_cutAfter_eq_cons (b cs : List Char) :
    ∃ g L, cutAfter b cs = (b.reverse ++ g) :: L := by
  induction cs generalizing b with
  | nil => exact ⟨[], [], by rw [cutAfter, List.append_nil]⟩
  | cons c cs ih =>
    rw [cutAfter]
    split
    next =>
      obtain ⟨g, L, h⟩ := ih (c :: b)
      exact ⟨c :: g, L, by rw [h, List.reverse_cons, List.append_assoc]; rfl⟩
    next => exact ⟨[], cutAfter [c] cs, by rw [List.append_nil]⟩

/-- A cluster that goes on does not end before it does. -/
theorem not_endsAt_of_goesOn (h : goesOn (a :: b) c) (post : List Char) :
    ¬ EndsAt (cutAfter (a :: b) (c :: post)) (a :: b).reverse := by
  intro hends
  obtain ⟨g, L, hL⟩ := exists_cutAfter_eq_cons (c :: a :: b) post
  rw [cutAfter, if_pos h, hL] at hends
  have hlength := (hends.isPrefix_head (List.reverse_ne_nil_iff.2 (List.cons_ne_nil a b))).length_le
  simp only [List.length_append, List.length_reverse, List.length_cons] at hlength
  omega

theorem endsAt_iff_of_apart (h : Apart earlier (a :: b)) (pre : List Char) (c : Char)
    (post : List Char) :
    EndsAt (cutAfter (a :: b) (pre ++ c :: post)) ((a :: b).reverse ++ pre) ↔
      goesOn (pre.reverse ++ (a :: b ++ earlier)) c = false := by
  induction pre generalizing a b earlier with
  | nil =>
    rw [List.nil_append, List.append_nil, List.reverse_nil, List.nil_append, h.goesOn_append]
    cases hc : goesOn (a :: b) c with
    | true => exact iff_of_false (not_endsAt_of_goesOn hc post) Bool.noConfusion
    | false =>
      rw [cutAfter, if_neg (by rw [hc]; exact Bool.false_ne_true)]
      exact iff_of_true ⟨[(a :: b).reverse], cutAfter [c] post, rfl, List.append_nil _⟩ rfl
  | cons d pre ih =>
    have hbefore : (d :: pre).reverse ++ (a :: b ++ earlier) =
        pre.reverse ++ (d :: a :: b ++ earlier) := by
      rw [List.reverse_cons, List.append_assoc]
      rfl
    rw [List.cons_append, cutAfter, hbefore]
    cases hd : goesOn (a :: b) d with
    | true =>
      have htext : (a :: b).reverse ++ d :: pre = (d :: a :: b).reverse ++ pre :=
        List.append_cons _ d pre |>.trans (by rw [← List.reverse_cons])
      rw [if_pos rfl, htext]
      exact ih (h.grow d)
    | false =>
      -- the first cluster is complete, so the ends are those of the others
      rw [if_neg Bool.false_ne_true,
        endsAt_cons_append (List.reverse_ne_nil_iff.2 (List.cons_ne_nil a b))]
      exact ih (b := []) (h.next hd)

/-- **Clusters end where the rules let them end**, and nowhere else. -/
theorem endsAt_iff_not_joins (hpre : s ≠ []) (c : Char) (post : List Char) :
    EndsAt (cut (s ++ c :: post)) s ↔ ¬ Joins s c := by
  obtain ⟨d, pre, rfl⟩ := List.exists_cons_of_ne_nil hpre
  have hends := endsAt_iff_of_apart (.start d) pre c post
  rw [joins_iff_goesOn, Bool.not_eq_true, List.reverse_cons]
  rwa [List.append_nil] at hends

theorem ne_nil_of_mem_cutAfter {g : List Char} (hb : b ≠ []) (hg : g ∈ cutAfter b cs) : g ≠ [] := by
  induction cs generalizing b with
  | nil =>
    obtain rfl := List.mem_singleton.1 hg
    exact List.reverse_ne_nil_iff.2 hb
  | cons c cs ih =>
    rw [cutAfter] at hg
    split at hg
    next => exact ih (List.cons_ne_nil c b) hg
    next =>
      obtain rfl | hg := List.mem_cons.1 hg
      · exact List.reverse_ne_nil_iff.2 hb
      · exact ih (List.cons_ne_nil c []) hg

theorem ne_nil_of_mem_cut {g : List Char} (hg : g ∈ cut s) : g ≠ [] := by
  cases s with
  | nil => cases hg
  | cons c cs => exact ne_nil_of_mem_cutAfter (List.cons_ne_nil c []) hg

/-- **The rules say how a text is cut**: into parts that are not empty and that end where the rules
let them end. -/
theorem cut_eq_iff {L : List (List Char)} :
    cut s = L ↔ [] ∉ L ∧ L.flatten = s ∧ ∀ pre c post, s = pre ++ c :: post → pre ≠ [] →
      (EndsAt L pre ↔ ¬ Joins pre c) := by
  have hcut : [] ∉ cut s := fun h => ne_nil_of_mem_cut h rfl
  constructor
  · rintro rfl
    refine ⟨hcut, flatten_cut s, ?_⟩
    rintro pre c post rfl hpre
    exact endsAt_iff_not_joins hpre c post
  · rintro ⟨hL, rfl, hends⟩
    refine eq_of_endsAt hcut hL (flatten_cut _) fun pre c post hpost hpre => ?_
    rw [flatten_cut] at hpost
    rw [hends pre c post hpost hpre, hpost, endsAt_iff_not_joins hpre]

/-- A pictograph goes on behind a joiner only if a pictograph stands before the joiner, and halves of
flags go together by twos. -/
example : clusters "🇩🇪🇫👩\u0301\u200d👩a\u200d👩\r\n\u0301" =
    ["🇩🇪", "🇫", "👩\u0301\u200d👩", "a\u200d", "👩", "\r\n", "\u0301"] := by decide +kernel

/-! ## Clusters by themselves -/

/-- What the cut of a text leaves open is cut off as one piece at its end. -/
theorem cut_reverse (hb : ∀ cs, cut (b.reverse ++ cs) = cutAfter b cs) :
    cut b.reverse = [b.reverse] := by
  have h := hb []
  rwa [List.append_nil] at h

theorem cut_of_mem_cutAfter {g : List Char} (hb : ∀ cs, cut (b.reverse ++ cs) = cutAfter b cs)
    (hg : g ∈ cutAfter b cs) : cut g = [g] := by
  induction cs generalizing b with
  | nil =>
    obtain rfl := List.mem_singleton.1 hg
    exact cut_reverse hb
  | cons c cs ih =>
    rw [cutAfter] at hg
    split at hg
    next hc =>
      refine ih (fun cs => ?_) hg
      have h := hb (c :: cs)
      rw [cutAfter, if_pos hc] at h
      rwa [List.reverse_cons, List.append_assoc]
    next =>
      obtain rfl | hg := List.mem_cons.1 hg
      · exact cut_reverse hb
      · exact ih (fun _ => rfl) hg

/-- **A cluster by itself is one cluster.** -/
theorem cut_eq_singleton {g : List Char} (hg : g ∈ cut s) : cut g = [g] := by
  cases s with
  | nil => cases hg
  | cons c cs => exact cut_of_mem_cutAfter (fun _ => rfl) hg

end Cluster

end GlyphEffects.Text
