import GlyphEffects.Proofs.Coherence
import GlyphEffects.Session

/-! # What an update leaves in the log

An update tells of every token that it has shown, with the names that are active there; at the end
it tells of the names that are left open and sums up what is shown then. When a tag is at fault it
tells of the tokens before, and of nothing else. All this is determined by the tokens. The limit of
the journal only chooses among what is told, and what is told has no say in anything else.

* `History.traces`, `History.leftOpen` and `History.summary`: what there is to tell, with levels.
* `Journal.heard`: what is written of it at a limit.
* `Replay.Reached.map_note_log`: the events of a replay tell of each token once, in order.
* `Label.told_by_update`: what an update tells.
* `Session.perform_started` and `Session.after_started`: a started journal hears what is told.
* `Session.log_law`: **the log records each update as it was, and has no influence on it.**
-/

namespace GlyphEffects

open GlyphEffects.Markup GlyphEffects.Number GlyphEffects.Text

/-! ## Records -/

/-- The record of an event with its level. -/
def Event.note (e : Event) : Level × String := (e.level, e.record)

namespace History

/-- What is told of a token while the tokens are shown. -/
def trace (message : String) : Level × String := (.trace, "[TRACE] textfx::engine: " ++ message)

/-- What is told of token `j`. -/
def traceOf (ts : List Token) (j : Nat) : Token → Level × String
  | .text content =>
    trace ("engine: text " ++ quoted content ++ " with " ++ (activeNames ts j).length.repr ++
      " active")
  | .opening n _ => trace ("engine: open `" ++ n ++ "`")
  | .closing n => trace ("engine: close `" ++ n ++ "`")

/-- What is told of the tokens before token `p`. -/
def traces (ts : List Token) (p : Nat) : List (Level × String) :=
  (ts.take p).mapIdx fun j t => traceOf ts j t

/-- What is told of the names that are left open at the end. -/
def leftOpen (settings : Settings) (ts : List Token) : List (Level × String) :=
  if settings.warnLeftOpen ∧ activeNames ts ts.length ≠ [] then
    [(.warn, "[WARN] textfx::engine: " ++
      ("engine: tags left open at end of text: " ++ ", ".intercalate (activeNames ts ts.length)))]
  else []

/-- What is told of a text that is shown. -/
def summary (shown : Rendering) : Level × String :=
  (.debug, "[DEBUG] textfx::instance: " ++
    ("update: " ++ shown.glyphs.length.repr ++ " glyphs, width " ++ hundredths shown.width ++
      ", text " ++ quoted shown.text))

end History

open History

theorem Event.note_of_trace {e : Event} (hlevel : e.level = .trace)
    (hsource : e.source = "textfx::engine") : e.note = trace e.message := by
  have hhead : "[" ++ "TRACE" ++ "] " ++ "textfx::engine" ++ ": " = "[TRACE] textfx::engine: " := by
    decide +kernel
  rw [note, record, hlevel, hsource, trace, ← hhead]
  rfl

theorem Event.note_leftOpen (names : List String) :
    (leftOpen names).note = (.warn, "[WARN] textfx::engine: " ++ (leftOpen names).message) := by
  have hhead : "[" ++ "WARN" ++ "] " ++ "textfx::engine" ++ ": " = "[WARN] textfx::engine: " := by
    decide +kernel
  rw [← hhead]
  rfl

theorem Event.note_updated (shown : Rendering) :
    (updated shown.glyphs.length shown.width shown.text).note = summary shown := by
  have hhead : "[" ++ "DEBUG" ++ "] " ++ "textfx::instance" ++ ": " =
      "[DEBUG] textfx::instance: " := by decide +kernel
  rw [summary, ← hhead]
  rfl

/-! ## Replays -/

namespace Replay

variable {s : Setup} {ts : List Token} {p : Nat} {r next : Replay} {t : Token}

theorem Reached.size_scope (h : Reached s ts p r) : r.scope.size = (activeNames ts p).length := by
  rw [← h.names_eq]
  exact (List.length_map _).symm

theorem traces_succ (ht : ts[p]? = some t) : traces ts (p + 1) = traces ts p ++ [traceOf ts p t] := by
  obtain ⟨hp, -⟩ := List.getElem?_eq_some_iff.1 ht
  rw [traces, traces, List.take_add_one, ht]
  show List.mapIdx _ (ts.take p ++ [t]) = _
  rw [List.mapIdx_concat, List.length_take_of_le (Nat.le_of_lt hp)]

/-- A token that is shown is told of once. -/
theorem map_note_log_step (h : Reached s ts p r) (ht : ts[p]? = some t)
    (hs : r.step s t = .ok next) :
    next.log.map Event.note = r.log.map Event.note ++ [traceOf ts p t] := by
  obtain ⟨content, rfl, rfl⟩ | ⟨name, arguments, effect, rfl, -, rfl⟩ | ⟨name, rfl, -, rfl⟩ :=
    step_cases hs
  · rw [List.map_append, traceOf, ← h.size_scope]
    exact congrArg (_ ++ [·]) (Event.note_of_trace rfl rfl)
  · rw [List.map_append]
    exact congrArg (_ ++ [·]) (Event.note_of_trace rfl rfl)
  · rw [List.map_append]
    exact congrArg (_ ++ [·]) (Event.note_of_trace rfl rfl)

/-- **The events of a replay tell of each token once, in order.** -/
theorem Reached.map_note_log (h : Reached s ts p r) : r.log.map Event.note = traces ts p := by
  induction h with
  | start => rfl
  | @step p r next t hr ht hs ih => rw [map_note_log_step hr ht hs, ih, traces_succ ht]

theorem Reached.map_note_warnings (h : Reached s ts ts.length r) :
    (r.warnings s).map Event.note = leftOpen s.settings ts := by
  have hopen : (s.settings.warnLeftOpen && !r.scope.isEmpty) = true ↔
      s.settings.warnLeftOpen = true ∧ activeNames ts ts.length ≠ [] := by
    rw [Bool.and_eq_true, Bool.not_eq_true', ← h.names_eq, Scope.names, Ne, List.map_eq_nil_iff,
      ← List.isEmpty_iff, Bool.not_eq_true]
    rfl
  by_cases hwarn : s.settings.warnLeftOpen = true ∧ activeNames ts ts.length ≠ []
  · rw [warnings, leftOpen, if_pos (hopen.2 hwarn), if_pos hwarn, h.names_eq]
    exact congrArg ([·]) (Event.note_leftOpen _)
  · rw [warnings, leftOpen, if_neg (mt hopen.1 hwarn), if_neg hwarn]
    rfl

end Replay

/-! ## Updates -/

namespace Label

variable {σ : Type} [Sink σ]

/-- **What an update tells.** When it succeeds, it tells of all tokens, warns of what is left open and
sums up what the label shows then; when a tag is at fault, it tells of the tokens before. -/
theorem told_by_update (l : Label σ) :
    (WellTagged l.setup.registry l.tokens ∧
      ∃ next, l.attempt .update = .ok next ∧
        l.updateEvents.map Event.note =
          traces l.tokens l.tokens.length ++ leftOpen l.setup.settings l.tokens ++
            [summary next.shown]) ∨
      ∃ p e, FirstFault l.setup.registry l.tokens p e ∧ l.attempt .update = .error e ∧
        l.updateEvents.map Event.note = traces l.tokens p := by
  obtain ⟨r, hr⟩ | ⟨p, e, hf⟩ := Replay.reached_length_or_firstFault l.setup l.tokens
  · refine .inl ⟨hr.wellTagged, l.accept (r.rendering l.setup), ?_, ?_⟩
    · rw [attempt_update, Setup.renderInto_eq_of_reached hr]
      rfl
    · rw [updateEvents, outcome, hr.render_eq, shown_accept, ← hr.map_note_log,
        ← hr.map_note_warnings, ← Event.note_updated, ← List.map_append]
      exact List.map_append
  · obtain ⟨r, t, hr, ht, he⟩ := Replay.firstFault_iff.1 hf
    refine .inr ⟨p, e, hf, ?_, ?_⟩
    · rw [attempt_update, Setup.renderInto_eq_of_error hr ht he]
      rfl
    · rw [updateEvents, outcome, hr.render_eq_of_error ht he, ← hr.map_note_log]
      exact congrArg (List.map Event.note) (List.append_nil r.log)

end Label

/-! ## Journals -/

namespace Journal

/-- What is written at a limit of what is told: the records whose level passes. -/
def heard (limit : Option Level) (notes : List (Level × String)) : List String :=
  (notes.filter fun n => n.1.passes limit).map Prod.snd

/-- At the limit of what happens to single tokens everything is written. -/
theorem heard_trace (notes : List (Level × String)) :
    heard (some .trace) notes = notes.map Prod.snd := by
  have hall : notes.filter (fun n => n.1.passes (some .trace)) = notes := by
    refine List.filter_eq_self.2 fun n _ => ?_
    cases n.1 <;> rfl
  rw [heard, hall]

theorem heard_append (limit : Option Level) (notes more : List (Level × String)) :
    heard limit (notes ++ more) = heard limit notes ++ heard limit more := by
  rw [heard, List.filter_append, List.map_append]
  rfl

/-- The limit of the program and that of the writer are one limit. -/
theorem write_started (limit : Option Level) (records : List String) (events : List Event) :
    (Journal.mk limit (some limit) records).write events =
      ⟨limit, some limit, records ++ heard limit (events.map Event.note)⟩ := by
  have hwrites : (Journal.mk limit (some limit) records).writes =
      (fun n : Level × String => n.1.passes limit) ∘ Event.note :=
    funext fun e => Bool.and_self (e.level.passes limit)
  rw [write, hwrites, heard, List.filter_map, List.map_map]
  rfl

end Journal

/-- Of what is told of a text whose tag is left open the debug limit keeps the warning. -/
example :
    let ts : List Token := [.openingWith "wave" [], .text "hi"]
    Journal.heard (some .debug) (traces ts 2 ++ leftOpen {} ts) =
      ["[WARN] textfx::engine: engine: tags left open at end of text: wave"] := by decide +kernel

/-! ## Sessions -/

namespace Session

open Journal

variable {σ : Type} [Sink σ]

/-- What an operation tells. -/
def Command.told (l : Label σ) : Command → List (Level × String)
  | work c => (c.events l).map Event.note
  | startJournal _ => []

/-- What several operations tell. -/
def told (l : Label σ) : List Command → List (Level × String)
  | [] => []
  | c :: cs => c.told l ++ told (c.onLabel l) cs

/-- The session after some operations. -/
def after (s : Session σ) (cs : List Command) : Session σ := cs.foldl perform s

/-- What comes back of some operations, and the label after each. -/
def results (s : Session σ) : List Command → List (Reply × Label σ)
  | [] => []
  | c :: cs => (s.reply c, (s.perform c).label) :: results (s.perform c) cs

/-- A started journal hears what an operation tells, and is not started again. -/
theorem perform_started (l : Label σ) (limit : Option Level) (records : List String) (c : Command) :
    perform ⟨l, ⟨limit, some limit, records⟩⟩ c =
      ⟨c.onLabel l, ⟨limit, some limit, records ++ heard limit (c.told l)⟩⟩ := by
  cases c with
  | work c => exact congrArg (Session.mk (l.perform c)) (write_started limit records _)
  | startJournal other =>
    exact congrArg (fun r => Session.mk l ⟨limit, some limit, r⟩) (List.append_nil records).symm

theorem after_started (l : Label σ) (limit : Option Level) (records : List String)
    (cs : List Command) :
    (after ⟨l, ⟨limit, some limit, records⟩⟩ cs).journal =
      ⟨limit, some limit, records ++ heard limit (told l cs)⟩ := by
  induction cs generalizing l records with
  | nil => exact congrArg (Journal.mk limit (some limit)) (List.append_nil records).symm
  | cons c cs ih =>
    rw [after, List.foldl_cons, perform_started]
    refine (ih _ _).trans ?_
    rw [told, heard_append, List.append_assoc]

theorem perform_eq (l : Label σ) (j : Journal) (c : Command) :
    perform ⟨l, j⟩ c = ⟨c.onLabel l, (perform ⟨l, j⟩ c).journal⟩ := by
  rw [← label_perform ⟨l, j⟩ c]

/-- The journal of a session has no say in what becomes of its label. -/
theorem map_label_results (l : Label σ) (j k : Journal) (cs : List Command) :
    (results ⟨l, j⟩ cs).map Prod.snd = (results ⟨l, k⟩ cs).map Prod.snd := by
  induction cs generalizing l j k with
  | nil => rfl
  | cons c cs ih =>
    rw [results, results, List.map_cons, List.map_cons, perform_eq l j, perform_eq l k,
      ih (c.onLabel l) (perform ⟨l, j⟩ c).journal (perform ⟨l, k⟩ c).journal]

theorem isSome_start? (j : Journal) (limit : Option Level) :
    (j.start? limit).isSome = !j.writer.isSome := by
  rw [start?]
  cases j.writer <;> rfl

theorem isSome_writer_start? (j : Journal) (limit : Option Level) :
    ((j.start? limit).getD j).writer.isSome = true := by
  rw [start?]
  cases h : j.writer with
  | none => rfl
  | some other => exact congrArg Option.isSome h

/-- Two sessions that differ in their journals only, both of them started or neither. -/
theorem step_alike {l : Label σ} {j k : Journal} (h : j.writer.isSome = k.writer.isSome)
    (c : Command) :
    reply ⟨l, j⟩ c = reply ⟨l, k⟩ c ∧
      (perform ⟨l, j⟩ c).journal.writer.isSome = (perform ⟨l, k⟩ c).journal.writer.isSome := by
  cases c with
  | work c => exact ⟨rfl, h⟩
  | startJournal limit =>
    refine ⟨?_, ?_⟩
    · rw [reply, reply, isSome_start?, isSome_start?, h]
    · exact (isSome_writer_start? j limit).trans (isSome_writer_start? k limit).symm

theorem results_alike (l : Label σ) {j k : Journal} (h : j.writer.isSome = k.writer.isSome)
    (cs : List Command) : results ⟨l, j⟩ cs = results ⟨l, k⟩ cs := by
  induction cs generalizing l j k with
  | nil => rfl
  | cons c cs ih =>
    obtain ⟨hreply, hwriter⟩ := step_alike (l := l) h c
    rw [results, results, hreply, perform_eq l j, perform_eq l k, ih (c.onLabel l) hwriter]

/-- **The log records each update as it was, and has no influence on it.** Whatever the label is, and
whatever has been written: when every tag is in order, an update succeeds, and the records of all
tokens follow, the warning if names are left open and there is to be one, and the summary of what the
label shows then; when a tag is the first at fault, the update fails and only the records of the
tokens before it follow. At the trace limit all these are written and at any other limit, or without
one, those whose level passes it. So it is with several operations, one after the other; and what
comes of them does not depend on the journal, but for the answer to a second start. -/
theorem log_law (l : Label σ) :
    ((WellTagged l.setup.registry l.tokens ∧
        ∃ next, l.attempt .update = .ok next ∧ ∀ limit records,
          perform ⟨l, ⟨limit, some limit, records⟩⟩ (.work .update) =
            ⟨next, ⟨limit, some limit, records ++ heard limit
              (traces l.tokens l.tokens.length ++ leftOpen l.setup.settings l.tokens ++
                [summary next.shown])⟩⟩) ∨
      ∃ p e, FirstFault l.setup.registry l.tokens p e ∧ l.attempt .update = .error e ∧
        ∀ limit records,
          perform ⟨l, ⟨limit, some limit, records⟩⟩ (.work .update) =
            ⟨l, ⟨limit, some limit, records ++ heard limit (traces l.tokens p)⟩⟩) ∧
      (∀ notes, heard (some .trace) notes = notes.map Prod.snd) ∧
      ∀ cs : List Command,
        (∀ limit records, (after ⟨l, ⟨limit, some limit, records⟩⟩ cs).journal =
          ⟨limit, some limit, records ++ heard limit (told l cs)⟩) ∧
        ∀ j k : Journal, (results ⟨l, j⟩ cs).map Prod.snd = (results ⟨l, k⟩ cs).map Prod.snd ∧
          (j.writer.isSome = k.writer.isSome → results ⟨l, j⟩ cs = results ⟨l, k⟩ cs) := by
  refine ⟨?_, heard_trace, fun cs => ⟨fun limit records => after_started l limit records cs,
    fun j k => ⟨map_label_results l j k cs, fun h => results_alike l h cs⟩⟩⟩
  obtain ⟨htags, next, hnext, htold⟩ | ⟨p, e, hf, he, htold⟩ := l.told_by_update
  · refine .inl ⟨htags, next, hnext, fun limit records => ?_⟩
    rw [perform_started, ← htold]
    show Session.mk (l.perform .update) _ = _
    rw [Label.perform_eq_getD_attempt, hnext]
    rfl
  · refine .inr ⟨p, e, hf, he, fun limit records => ?_⟩
    rw [perform_started, ← htold]
    show Session.mk (l.perform .update) _ = _
    rw [Label.perform_eq_getD_attempt, he]
    rfl

end Session

end GlyphEffects
