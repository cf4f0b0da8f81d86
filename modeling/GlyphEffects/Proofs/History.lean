import Mathlib.Data.List.Nodup
import GlyphEffects.Markup.Token

/-! # The history of tags

Which effects are active at a token is a matter of the tags before it. Everything here is said of
places in a list of tokens, and nothing changes from token to token.

* `ActiveBefore ts p n`: some tag before token `p` opens `n`, and no tag strictly between closes it.
* `BeginsStay ts p j n`: token `j` is the first opening tag of `n` after the last closing tag of `n`
  before token `p`.
* `activeNames ts p`: the active names in the order in which their stays begin, and
  `lastArguments? ts p n`: the arguments of the last opening tag of `n`.
* `activeNames_succ` and `lastArguments?_succ` say what one more token changes, and
  `mem_activeNames_iff` and `nodup_activeNames` what the list holds.
-/

namespace GlyphEffects.History

open GlyphEffects.Markup

variable {ts : List Token} {j p : Nat} {n : String}

/-- Token `j` opens a name. -/
def Opens (ts : List Token) (j : Nat) (n : String) : Prop :=
  ∃ arguments, ts[j]? = some (.opening n arguments)

/-- Token `j` closes a name. -/
def Closes (ts : List Token) (j : Nat) (n : String) : Prop := ts[j]? = some (.closing n)

/-- No token strictly between `j` and `p` closes a name. -/
def Unclosed (ts : List Token) (j p : Nat) (n : String) : Prop :=
  ∀ k < p, j < k → ¬ Closes ts k n

/-- A name is active before token `p`. -/
def ActiveBefore (ts : List Token) (p : Nat) (n : String) : Prop :=
  ∃ j < p, Opens ts j n ∧ Unclosed ts j p n

/-- Token `j` begins the stay in which a name is before token `p`: it opens the name, which is not
closed since, and the tags that opened it earlier are closed again. -/
def BeginsStay (ts : List Token) (p j : Nat) (n : String) : Prop :=
  Opens ts j n ∧ Unclosed ts j p n ∧ ∀ i < j, Opens ts i n → ¬ Unclosed ts i p n

instance : Decidable (Opens ts j n) :=
  match h : ts[j]? with
  | some (.opening m arguments) =>
    if hn : m = n then isTrue ⟨arguments, hn ▸ h⟩
    else isFalse fun ⟨_, g⟩ => hn (Token.opening.inj (Option.some.inj (h.symm.trans g))).1
  | some (.text _) => isFalse fun ⟨_, g⟩ => nomatch h.symm.trans g
  | some (.closing _) => isFalse fun ⟨_, g⟩ => nomatch h.symm.trans g
  | none => isFalse fun ⟨_, g⟩ => nomatch h.symm.trans g

instance : Decidable (Closes ts j n) :=
  match h : ts[j]? with
  | some (.closing m) =>
    if hn : m = n then isTrue (hn ▸ h)
    else isFalse fun g => hn (Token.closing.inj (Option.some.inj (h.symm.trans g)))
  | some (.text _) => isFalse fun g => nomatch h.symm.trans g
  | some (.opening ..) => isFalse fun g => nomatch h.symm.trans g
  | none => isFalse fun g => nomatch h.symm.trans g

instance : Decidable (Unclosed ts j p n) :=
  inferInstanceAs (Decidable (∀ k < p, j < k → ¬ Closes ts k n))

instance : Decidable (ActiveBefore ts p n) :=
  inferInstanceAs (Decidable (∃ j < p, Opens ts j n ∧ Unclosed ts j p n))

instance : Decidable (BeginsStay ts p j n) :=
  inferInstanceAs (Decidable (Opens ts j n ∧ Unclosed ts j p n ∧
    ∀ i < j, Opens ts i n → ¬ Unclosed ts i p n))

/-- The name whose stay before token `p` begins with token `j`. -/
def stayAt? (ts : List Token) (p j : Nat) : Option String :=
  match ts[j]? with
  | some (.opening n _) => if BeginsStay ts p j n then some n else none
  | _ => none

/-- The names that are active before token `p`, in the order in which their stays begin. -/
def activeNames (ts : List Token) (p : Nat) : List String :=
  (List.range p).filterMap (stayAt? ts p)

/-- The arguments that a token opens a name with. -/
def argumentsOf? (n : String) : Token → Option Arguments
  | .opening m arguments => if m = n then some arguments else none
  | _ => none

/-- The arguments of the last tag before token `p` that opens a name. -/
def lastArguments? (ts : List Token) (p : Nat) (n : String) : Option Arguments :=
  ((ts.take p).filterMap (argumentsOf? n)).getLast?

/-! ## One more token -/

theorem getLast?_filterMap_concat {α β : Type} (f : α → Option β) (xs : List α) (x : α) :
    ((xs ++ [x]).filterMap f).getLast? = (f x).or (xs.filterMap f).getLast? := by
  rw [List.filterMap_append, List.getLast?_append]
  cases h : f x <;> simp [h]

theorem getD_getLast?_filterMap_concat {α β : Type} (f : α → Option β) (d : β) (xs : List α)
    (x : α) :
    ((xs ++ [x]).filterMap f).getLast?.getD d =
      (f x).getD ((xs.filterMap f).getLast?.getD d) := by
  rw [getLast?_filterMap_concat, Option.getD_or]

theorem unclosed_succ_of_lt (hj : j < p) :
    Unclosed ts j (p + 1) n ↔ Unclosed ts j p n ∧ ¬ Closes ts p n := by
  constructor
  · intro h
    exact ⟨fun k hk => h k (by omega), h p (by omega) hj⟩
  · rintro ⟨h, hp⟩ k hk hjk
    rcases Nat.lt_succ_iff_lt_or_eq.1 hk with hk | rfl
    · exact h k hk hjk
    · exact hp

theorem not_closes_of_opens (h : Opens ts j n) {m : String} : ¬ Closes ts j m := by
  obtain ⟨arguments, h⟩ := h
  simp [Closes, h]

theorem activeBefore_succ :
    ActiveBefore ts (p + 1) n ↔ ActiveBefore ts p n ∧ ¬ Closes ts p n ∨ Opens ts p n := by
  constructor
  · rintro ⟨j, hj, ho, hu⟩
    rcases Nat.lt_succ_iff_lt_or_eq.1 hj with hj | rfl
    · obtain ⟨hu, hp⟩ := (unclosed_succ_of_lt hj).1 hu
      exact .inl ⟨⟨j, hj, ho, hu⟩, hp⟩
    · exact .inr ho
  · rintro (⟨⟨j, hj, ho, hu⟩, hp⟩ | ho)
    · exact ⟨j, by omega, ho, (unclosed_succ_of_lt hj).2 ⟨hu, hp⟩⟩
    · exact ⟨p, by omega, ho, fun k hk hpk => by omega⟩

theorem beginsStay_succ_of_lt (hj : j < p) :
    BeginsStay ts (p + 1) j n ↔ BeginsStay ts p j n ∧ ¬ Closes ts p n := by
  unfold BeginsStay
  rw [unclosed_succ_of_lt hj]
  constructor
  · rintro ⟨ho, ⟨hu, hp⟩, hi⟩
    refine ⟨⟨ho, hu, fun i hij hio hiu => ?_⟩, hp⟩
    exact hi i hij hio ((unclosed_succ_of_lt (Nat.lt_trans hij hj)).2 ⟨hiu, hp⟩)
  · rintro ⟨⟨ho, hu, hi⟩, hp⟩
    refine ⟨ho, ⟨hu, hp⟩, fun i hij hio hiu => ?_⟩
    exact hi i hij hio ((unclosed_succ_of_lt (Nat.lt_trans hij hj)).1 hiu).1

theorem beginsStay_succ_self :
    BeginsStay ts (p + 1) p n ↔ Opens ts p n ∧ ¬ ActiveBefore ts p n := by
  constructor
  · rintro ⟨ho, -, hi⟩
    refine ⟨ho, fun ⟨i, hip, hio, hiu⟩ => ?_⟩
    exact hi i hip hio ((unclosed_succ_of_lt hip).2 ⟨hiu, not_closes_of_opens ho⟩)
  · rintro ⟨ho, ha⟩
    refine ⟨ho, fun k hk hpk => by omega, fun i hip hio hiu => ?_⟩
    exact ha ⟨i, hip, hio, ((unclosed_succ_of_lt hip).1 hiu).1⟩

theorem stayAt?_eq_some_iff : stayAt? ts p j = some n ↔ BeginsStay ts p j n := by
  unfold stayAt?
  split
  next m arguments h =>
    rw [Option.ite_none_right_eq_some]
    constructor
    · rintro ⟨hb, e⟩
      exact Option.some.inj e ▸ hb
    · intro hb
      obtain ⟨_, g⟩ := hb.1
      obtain ⟨rfl, -⟩ := Token.opening.inj (Option.some.inj (h.symm.trans g))
      exact ⟨hb, rfl⟩
  next hno =>
    constructor
    · intro h
      cases h
    · rintro ⟨⟨_, g⟩, -⟩
      exact absurd g (hno n _)

theorem stayAt?_succ_of_lt (hj : j < p) :
    stayAt? ts (p + 1) j = (stayAt? ts p j).filter fun n => ¬ Closes ts p n := by
  refine Option.ext fun n => ?_
  rw [Option.filter_eq_some_iff, stayAt?_eq_some_iff, stayAt?_eq_some_iff,
    beginsStay_succ_of_lt hj, decide_eq_true_iff]

theorem stayAt?_succ_self :
    stayAt? ts (p + 1) p = some n ↔ Opens ts p n ∧ ¬ ActiveBefore ts p n :=
  stayAt?_eq_some_iff.trans beginsStay_succ_self

/-- **What a token does to the active names.** A closing tag takes its name away, and an opening
tag adds its name at the end unless it is active. -/
theorem activeNames_succ (ts : List Token) (p : Nat) :
    activeNames ts (p + 1) =
      ((activeNames ts p).filter fun n => ¬ Closes ts p n) ++ (stayAt? ts (p + 1) p).toList := by
  have hearlier : (List.range p).filterMap (stayAt? ts (p + 1)) =
      (List.range p).filterMap fun j => (stayAt? ts p j).filter fun n => ¬ Closes ts p n :=
    List.filterMap_congr fun j hj => stayAt?_succ_of_lt (List.mem_range.1 hj)
  rw [activeNames, activeNames, List.range_succ, List.filterMap_append, List.filter_filterMap,
    hearlier]
  rfl

theorem mem_activeNames_iff : n ∈ activeNames ts p ↔ ActiveBefore ts p n := by
  induction p with
  | zero => simp [activeNames, ActiveBefore]
  | succ p ih =>
    rw [activeNames_succ, activeBefore_succ, List.mem_append, List.mem_filter, ih,
      Option.mem_toList, stayAt?_succ_self]
    by_cases ho : Opens ts p n
    · have hc : ¬ Closes ts p n := not_closes_of_opens ho
      by_cases ha : ActiveBefore ts p n <;> simp [ho, hc, ha]
    · simp [ho]

theorem nodup_activeNames (ts : List Token) (p : Nat) : (activeNames ts p).Nodup := by
  induction p with
  | zero => exact List.nodup_nil
  | succ p ih =>
    rw [activeNames_succ]
    refine List.Nodup.append (ih.filter _) ?_ fun n hold hnew => ?_
    · cases stayAt? ts (p + 1) p <;> simp
    · rw [Option.mem_toList, stayAt?_succ_self] at hnew
      exact hnew.2 (mem_activeNames_iff.1 (List.mem_of_mem_filter hold))

/-! ## One more token, case by case -/

theorem activeNames_succ_of_text {content : String} (h : ts[p]? = some (.text content)) :
    activeNames ts (p + 1) = activeNames ts p := by
  have hnew : stayAt? ts (p + 1) p = none := by simp [stayAt?, h]
  rw [activeNames_succ, hnew, Option.toList_none, List.append_nil]
  exact List.filter_eq_self.2 fun n _ => by simp [Closes, h]

theorem activeNames_succ_of_opening {arguments : Arguments}
    (h : ts[p]? = some (.opening n arguments)) :
    activeNames ts (p + 1) =
      if n ∈ activeNames ts p then activeNames ts p else activeNames ts p ++ [n] := by
  have ho : Opens ts p n := ⟨arguments, h⟩
  have hold : (activeNames ts p).filter (fun m => ¬ Closes ts p m) = activeNames ts p :=
    List.filter_eq_self.2 fun m _ => by simp [not_closes_of_opens ho]
  rw [activeNames_succ, hold]
  split
  next hn =>
    have hnew : stayAt? ts (p + 1) p = none := by
      refine Option.eq_none_iff_forall_ne_some.2 fun m hm => ?_
      obtain ⟨⟨_, g⟩, hinactive⟩ := stayAt?_succ_self.1 hm
      obtain ⟨rfl, -⟩ := Token.opening.inj (Option.some.inj (h.symm.trans g))
      exact hinactive (mem_activeNames_iff.1 hn)
    rw [hnew, Option.toList_none, List.append_nil]
  next hn =>
    have hnew : stayAt? ts (p + 1) p = some n :=
      stayAt?_succ_self.2 ⟨ho, fun ha => hn (mem_activeNames_iff.2 ha)⟩
    rw [hnew, Option.toList_some]

theorem activeNames_succ_of_closing (h : ts[p]? = some (.closing n)) :
    activeNames ts (p + 1) = (activeNames ts p).erase n := by
  have hnew : stayAt? ts (p + 1) p = none := by simp [stayAt?, h]
  rw [activeNames_succ, hnew, Option.toList_none, List.append_nil,
    (nodup_activeNames ts p).erase_eq_filter]
  refine List.filter_congr fun m _ => ?_
  by_cases hm : m = n <;> simp [Closes, h, hm, Ne.symm]

end GlyphEffects.History
