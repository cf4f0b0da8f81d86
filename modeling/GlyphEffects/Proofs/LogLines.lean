import GlyphEffects.Proofs.Quotations
import GlyphEffects.Proofs.TokensRead
import GlyphEffects.Proofs.UpdateLog

/-! # The lines of a log

The log is read line by line. A text is quoted, so it cannot break a line, whatever it holds; only a
name could. Names that are read off a format text consist of letters. So the lines of a log are its
records as long as only format texts are shown.

* `IsLine`: no line ends in a text. Quotations and numbers are such.
* `Event.isLine_record_iff`: **a record is one line exactly when the names in it are**.
* `Event.record_text_inj`: the record of a text says which text it was and how much was active.
* `Journal.lines_eq_records`: records of one line each are the lines of their log.
* `Label.exists_token_of_updateEvents`: the names that an update tells of are those of its tags.
* `Session.Plain.perform` and `Session.Plain.after`: what one operation and several keep.
* `Session.lines_after_of_format`: **the lines of a session over format texts are what is heard**.
-/

namespace GlyphEffects

open GlyphEffects.Markup GlyphEffects.Number

namespace Text

/-! ## Lines -/

/-- No line ends in the text: it has neither a line feed nor a carriage return. -/
def IsLine (s : String) : Prop := '\n' ∉ s.toList ∧ '\r' ∉ s.toList

instance (s : String) : Decidable (IsLine s) := inferInstanceAs (Decidable (_ ∧ _))

theorem isLine_append_iff {s t : String} : IsLine (s ++ t) ↔ IsLine s ∧ IsLine t := by
  rw [IsLine, String.toList_append, List.mem_append, List.mem_append, not_or, not_or]
  exact and_and_and_comm

theorem isLine_between_iff {before after s : String} (hb : IsLine before) (ha : IsLine after) :
    IsLine (before ++ s ++ after) ↔ IsLine s := by
  rw [isLine_append_iff, isLine_append_iff, and_iff_left ha, and_iff_right hb]

/-- The characters that end a line are hidden, so none stands in a quotation. -/
theorem isLine_quoted (s : String) : IsLine (quoted s) := by
  constructor
  · intro h
    exact absurd (isHidden_of_mem_quoted h) (by decide +kernel)
  · intro h
    exact absurd (isHidden_of_mem_quoted h) (by decide +kernel)

theorem isLine_repr (n : Nat) : IsLine n.repr := by
  rw [IsLine, Nat.toList_repr]
  constructor
  · exact not_mem_toDigits (by decide) (fun k => Nat.digitChar_ne _ (by decide)) n
  · exact not_mem_toDigits (by decide) (fun k => Nat.digitChar_ne _ (by decide)) n

theorem isLine_of_isLetters {s : String} (h : IsLetters s) : IsLine s :=
  ⟨fun hm => absurd (h _ hm) (by decide), fun hm => absurd (h _ hm) (by decide)⟩

theorem isLine_intercalate_iff {sep : String} (hsep : IsLine sep) {names : List String} :
    IsLine (sep.intercalate names) ↔ ∀ n ∈ names, IsLine n := by
  induction names with
  | nil =>
    rw [String.intercalate_nil]
    exact iff_of_true (by decide) fun n hn => absurd hn List.not_mem_nil
  | cons n names ih =>
    cases names with
    | nil => rw [String.intercalate_singleton, List.forall_mem_singleton]
    | cons m names =>
      rw [String.intercalate_cons_cons, isLine_append_iff, isLine_append_iff, ih,
        List.forall_mem_cons (a := n), and_iff_left hsep]

/-- Lines with a line feed after each are the lines of what they are put together to. -/
theorem lines_join_map {ls : List String} (h : ∀ l ∈ ls, IsLine l) :
    lines (String.join (ls.map (· ++ "\n"))) = ls := by
  have hjoin : (String.join (ls.map (· ++ "\n"))).toList =
      (ls.map String.toList).flatMap Line.ended := by
    rw [String.toList_join, List.flatMap_map, List.flatMap_map]
    exact List.flatMap_congr fun l _ => String.toList_append
  have hcut : ∀ l ∈ ls.map String.toList, '\n' ∉ l ∧ '\r' ∉ l := List.forall_mem_map.2 h
  rw [lines, hjoin, Line.cut_flatMap_ended hcut, List.map_map]
  exact List.map_id'' (fun l => String.ofList_toList) ls

end Text

open GlyphEffects.Text GlyphEffects.History

theorem Number.isLine_spellHundredths (n : Nat) : IsLine (spellHundredths n) := by
  rw [spellHundredths, isLine_append_iff, isLine_append_iff, isLine_append_iff]
  exact ⟨⟨⟨isLine_repr _, by decide⟩, isLine_repr _⟩, isLine_repr _⟩

theorem Number.isLine_hundredths (x : Float32) : IsLine (hundredths x) := by
  rw [hundredths]
  split
  · decide
  · refine isLine_append_iff.2 ⟨?_, ?_⟩
    · split <;> decide
    · split
      · decide
      · exact isLine_spellHundredths _

/-! ## Records -/

namespace Event

/-- The names that an event tells of as they are. -/
def names : Event → List String
  | text .. | updated .. => []
  | opened n | closed n | registered n | removed n => [n]
  | leftOpen ns => ns
  | kept cause => [cause.message]

theorem isLine_source (e : Event) : IsLine e.source := by
  cases e with
  | text | opened | closed | leftOpen => exact (by decide : IsLine "textfx::engine")
  | updated => exact (by decide : IsLine "textfx::instance")
  | registered | removed => exact (by decide : IsLine "textfx::registry")
  | kept => exact (by decide : IsLine "textfx::effects")

theorem isLine_message_iff (e : Event) : IsLine e.message ↔ ∀ n ∈ e.names, IsLine n := by
  cases e with
  | text content active =>
    have hcontent : IsLine ("engine: text " ++ quoted content ++ " with ") :=
      (isLine_between_iff (by decide) (by decide)).2 (isLine_quoted content)
    exact iff_of_true ((isLine_between_iff hcontent (by decide)).2 (isLine_repr active))
      fun n hn => absurd hn List.not_mem_nil
  | updated glyphs width shown =>
    have hglyphs : IsLine ("update: " ++ glyphs.repr ++ " glyphs, width ") :=
      (isLine_between_iff (by decide) (by decide)).2 (isLine_repr glyphs)
    have hwidth : IsLine
        ("update: " ++ glyphs.repr ++ " glyphs, width " ++ hundredths width ++ ", text ") :=
      (isLine_between_iff hglyphs (by decide)).2 (isLine_hundredths width)
    exact iff_of_true (isLine_append_iff.2 ⟨hwidth, isLine_quoted shown⟩)
      fun n hn => absurd hn List.not_mem_nil
  | opened n | closed n | registered n | removed n =>
    exact (isLine_between_iff (by decide) (by decide)).trans List.forall_mem_singleton.symm
  | leftOpen ns =>
    refine isLine_append_iff.trans ((and_iff_right (by decide)).trans ?_)
    exact isLine_intercalate_iff (by decide)
  | kept cause =>
    refine isLine_append_iff.trans ((and_iff_right (by decide)).trans ?_)
    exact List.forall_mem_singleton.symm

/-- **A record is one line exactly when the names in it have no line ends.** -/
theorem isLine_record_iff (e : Event) : IsLine e.record ↔ ∀ n ∈ e.names, IsLine n := by
  have hlevel : IsLine e.level.label := by
    cases e.level <;> decide
  have hhead : IsLine ("[" ++ e.level.label ++ "] " ++ e.source ++ ": ") :=
    (isLine_between_iff ((isLine_between_iff (by decide) (by decide)).2 hlevel) (by decide)).2
      e.isLine_source
  exact isLine_append_iff.trans ((and_iff_right hhead).trans e.isLine_message_iff)

/-- The record of a text says which one it was, and how many effects were active. -/
theorem record_text_inj {content other : String} {m n : Nat}
    (h : (text content m).record = (text other n).record) : content = other ∧ m = n := by
  have hrecord : ∀ s k, (text s k).record.toList =
      ("[TRACE] textfx::engine: ".toList ++ "engine: text ".toList) ++
        ((quoted s).toList ++ (" with ".toList ++ (k.repr.toList ++ " active".toList))) := by
    intro s k
    have hnote : (text s k).record = "[TRACE] textfx::engine: " ++
        ("engine: text " ++ quoted s ++ " with " ++ k.repr ++ " active") :=
      congrArg Prod.snd (note_of_trace (e := .text s k) rfl rfl)
    rw [hnote]
    simp only [String.toList_append, List.append_assoc]
  have hlist := congrArg String.toList h
  rw [hrecord, hrecord] at hlist
  obtain ⟨hcontent, hrest⟩ := quoted_append_inj (List.append_cancel_left hlist)
  have hdigits := List.append_cancel_right (List.append_cancel_left hrest)
  rw [Nat.toList_repr, Nat.toList_repr] at hdigits
  exact ⟨hcontent, toDigits_injective (by decide) (by decide) hdigits⟩

end Event

/-! ## Journals -/

theorem Journal.lines_eq_records {j : Journal} (h : ∀ r ∈ j.records, IsLine r) :
    j.lines = j.records := lines_join_map h

theorem Journal.isLine_of_write {j : Journal} (hj : ∀ r ∈ j.records, IsLine r) {events : List Event}
    (he : ∀ e ∈ events, IsLine e.record) : ∀ r ∈ (j.write events).records, IsLine r := by
  intro r hr
  rcases List.mem_append.1 hr with hr | hr
  · exact hj r hr
  · obtain ⟨e, hmem, rfl⟩ := List.mem_map.1 hr
    exact he e (List.mem_of_mem_filter hmem)

/-! ## Names -/

/-- No line ends in the names of the tags. -/
def PlainNames (ts : List Token) : Prop := ∀ t ∈ ts, ∀ n, t.name? = some n → IsLine n

/-- No line ends in the names of the tags that a source has. -/
def Markup.Source.Plain (source : Source) : Prop := ∀ ts, source.read = .ok ts → PlainNames ts

theorem isLine_of_wellFormed {t : Token} (h : t.WellFormed) {n : String} (hn : t.name? = some n) :
    IsLine n := by
  cases t with
  | text content => cases hn
  | opening name a => exact Option.some.inj hn ▸ isLine_of_isLetters h.2.1
  | closing name => exact Option.some.inj hn ▸ isLine_of_isLetters h

/-- The names that are read off a format text are plain. -/
theorem Markup.Source.plain_format (s : String) : (Source.format s).Plain :=
  fun _ h t ht _ hn => isLine_of_wellFormed ((reads_iff.2 h).token_wellFormed t ht) hn

namespace Replay

variable {s : Setup} {ts : List Token} {p : Nat} {r next : Replay} {t : Token} {e : Event}
  {n : String}

theorem mem_log_step (h : r.step s t = .ok next) (he : e ∈ next.log) :
    e ∈ r.log ∨ ∀ n ∈ e.names, t.name? = some n := by
  obtain ⟨content, rfl, rfl⟩ | ⟨name, arguments, effect, rfl, -, rfl⟩ | ⟨name, rfl, -, rfl⟩ :=
    step_cases h
  all_goals refine (List.mem_append.1 he).imp_right fun hlast => ?_
  all_goals obtain rfl := List.mem_singleton.1 hlast
  · exact fun n hn => absurd hn List.not_mem_nil
  · exact fun n hn => congrArg some (List.mem_singleton.1 hn).symm
  · exact fun n hn => congrArg some (List.mem_singleton.1 hn).symm

theorem Reached.exists_token_of_log (h : Reached s ts p r) (he : e ∈ r.log) (hn : n ∈ e.names) :
    ∃ t ∈ ts, t.name? = some n := by
  induction h with
  | start => exact absurd he List.not_mem_nil
  | @step p r next t hr ht hs ih =>
    rcases mem_log_step hs he with he | hname
    · exact ih he
    · exact ⟨t, List.mem_of_getElem? ht, hname n hn⟩

theorem Reached.exists_token_of_warnings (h : Reached s ts p r) (he : e ∈ r.warnings s)
    (hn : n ∈ e.names) : ∃ t ∈ ts, t.name? = some n := by
  rw [warnings] at he
  split at he
  · obtain rfl := List.mem_singleton.1 he
    have hactive : n ∈ activeNames ts p := h.names_eq ▸ hn
    obtain ⟨j, -, ⟨arguments, ht⟩, -⟩ := mem_activeNames_iff.1 hactive
    exact ⟨.opening n arguments, List.mem_of_getElem? ht, rfl⟩
  · exact absurd he List.not_mem_nil

end Replay

namespace Label

variable {σ : Type}

/-- The names that an update tells of are those of its tags. -/
theorem exists_token_of_updateEvents {l : Label σ} {e : Event} (he : e ∈ l.updateEvents)
    {n : String} (hn : n ∈ e.names) : ∃ t ∈ l.tokens, t.name? = some n := by
  obtain ⟨r, hr⟩ | ⟨p, r, t, error, hr, ht, hs⟩ :=
    Replay.reached_length_or_error l.setup l.tokens
  · rw [updateEvents, outcome, hr.render_eq] at he
    rcases List.mem_append.1 he with he | he
    · rcases List.mem_append.1 he with he | he
      · exact hr.exists_token_of_log he hn
      · exact hr.exists_token_of_warnings he hn
    · obtain rfl := List.mem_singleton.1 he
      exact absurd hn List.not_mem_nil
  · rw [updateEvents, outcome, hr.render_eq_of_error ht hs] at he
    exact hr.exists_token_of_log (List.append_nil r.log ▸ he) hn

theorem isLine_of_events {l : Label σ} (h : PlainNames l.tokens) (c : Command) :
    ∀ e ∈ c.events l, IsLine e.record := by
  intro e he
  rw [Event.isLine_record_iff]
  intro n hn
  cases c with
  | update =>
    obtain ⟨t, ht, hname⟩ := exists_token_of_updateEvents he hn
    exact h t ht n hname
  | _ => exact absurd he List.not_mem_nil

end Label

/-! ## Sessions -/

namespace Session

variable {σ : Type} [Sink σ]

/-- An operation that brings no names with line ends. -/
def Command.Plain : Command → Prop
  | work (.setSource source) => source.Plain
  | _ => True

/-- The tags have plain names, and every record is one line. -/
structure Plain (s : Session σ) : Prop where
  names : PlainNames s.label.tokens
  lines : ∀ r ∈ s.journal.records, IsLine r

theorem Plain.perform {s : Session σ} (h : s.Plain) {c : Command} (hc : c.Plain) :
    (s.perform c).Plain := by
  cases c with
  | startJournal limit =>
    have hrecords : ((s.journal.start? limit).getD s.journal).records = s.journal.records := by
      rw [Journal.start?]
      cases s.journal.writer <;> rfl
    exact ⟨h.names, fun r hr => h.lines r (hrecords ▸ hr)⟩
  | work c =>
    refine ⟨?_, Journal.isLine_of_write h.lines (Label.isLine_of_events h.names c)⟩
    show PlainNames (s.label.perform c).tokens
    have htokens := (Label.Step.apply_eq s.label (.operation c)).1
    cases c with
    | setSource source =>
      rw [← Label.Step.apply, htokens, Label.Step.tokens?]
      cases hr : source.read with
      | ok ts => exact hc ts hr
      | error fault => exact h.names
    | _ => exact htokens ▸ h.names

theorem Plain.after {s : Session σ} (h : s.Plain) {cs : List Command} (hcs : ∀ c ∈ cs, c.Plain) :
    (s.after cs).Plain := by
  induction cs generalizing s with
  | nil => exact h
  | cons c cs ih =>
    exact ih (h.perform (hcs c List.mem_cons_self)) fun d hd => hcs d (List.mem_cons_of_mem c hd)

/-- As long as no names with line ends are brought in, the lines of the log are what is heard. -/
theorem lines_after {font : Font} {source : Source} {registry : Registry} {sink : σ} {l : Label σ}
    (hl : Label.ofSource? font source registry sink = .ok l) (hsource : source.Plain)
    (limit : Option Level) {cs : List Command} (hcs : ∀ c ∈ cs, c.Plain) :
    (after ⟨l, .started limit⟩ cs).journal.lines = Journal.heard limit (told l cs) := by
  have hstart : Plain (Session.mk l (.started limit)) :=
    ⟨hsource _ (Label.fields_of_ofSource? hl).1, fun r hr => absurd hr List.not_mem_nil⟩
  rw [Journal.lines_eq_records (hstart.after hcs).lines]
  exact congrArg Journal.records (after_started l limit [] cs)

theorem Command.plain_of_ne {c : Command} (h : ∀ ts, c ≠ .work (.setSource (.tokens ts))) :
    c.Plain := by
  cases c with
  | startJournal limit => trivial
  | work c =>
    cases c with
    | setSource source =>
      cases source with
      | format s => exact Source.plain_format s
      | tokens ts => exact absurd rfl (h ts)
    | _ => trivial

/-- **The lines of a session over format texts are what is heard of it**, one for each record, be
the texts what they may. Only names that are given by hand can break a line. -/
theorem lines_after_of_format {font : Font} {text : String} {registry : Registry} {sink : σ}
    {l : Label σ} (hl : Label.ofSource? font (.format text) registry sink = .ok l)
    (limit : Option Level) {cs : List Command}
    (hcs : ∀ c ∈ cs, ∀ ts, c ≠ .work (.setSource (.tokens ts))) :
    (after ⟨l, .started limit⟩ cs).journal.lines = Journal.heard limit (told l cs) :=
  lines_after hl (Source.plain_format text) limit fun c hc => Command.plain_of_ne (hcs c hc)

end Session

end GlyphEffects
