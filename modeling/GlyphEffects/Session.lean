import GlyphEffects.Label

/-! # Sessions

A session works on a label and keeps a journal of what is told meanwhile. The journal never has a
say in what becomes of the label.

* `Session.Command` is an operation on the label, or the start of the journal.
* `Session.perform` carries out an operation, and `Session.reply` is what comes back of it.
* `Session.label_perform` says what becomes of the label, whatever the journal is.
-/

namespace GlyphEffects

/-- A label that is worked on while a journal is kept. -/
structure Session (σ : Type := Batch) where
  label : Label σ
  journal : Journal

namespace Session

variable {σ : Type} [Sink σ]

/-- An operation of a session. -/
inductive Command
  | work (command : Label.Command)
  | startJournal (limit : Option Level)

/-- What comes back of an operation. -/
inductive Reply
  | done
  | failed (e : Error)
  | alreadyStarted
deriving DecidableEq, Repr

/-- What comes back of an operation. -/
def reply (s : Session σ) : Command → Reply
  | .work c =>
    match s.label.attempt c with
    | .ok _ => .done
    | .error e => .failed e
  | .startJournal limit => if (s.journal.start? limit).isSome then .done else .alreadyStarted

def perform (s : Session σ) : Command → Session σ
  | .work c => ⟨s.label.perform c, s.journal.write (c.events s.label)⟩
  | .startJournal limit => { s with journal := (s.journal.start? limit).getD s.journal }

def Command.onLabel (l : Label σ) : Command → Label σ
  | work c => l.perform c
  | startJournal _ => l

theorem label_perform (s : Session σ) (c : Command) : (s.perform c).label = c.onLabel s.label := by
  cases c <;> rfl

end Session

end GlyphEffects
