import GlyphEffects.Error
import GlyphEffects.Number.Fixed
import GlyphEffects.Text.Lines
import GlyphEffects.Text.Quoted

/-! # Log

What is done is told as events. Every event has a level, and a log writes a record of each event
that is at least as severe as its limit.

* `Event` lists what can be told.
* `Event.level`, `Event.source` and `Event.message` make up the record of an event, `Event.record`.
* `Journal` is the log that is being written. It is started once; its text is read as lines.
* `Journal.writes` says which events are written: they pass the limit of the whole program and that
  of the writer.
-/

namespace GlyphEffects

open GlyphEffects.Number GlyphEffects.Text

inductive Level
  | error
  | warn
  | info
  | debug
  | trace
deriving DecidableEq, Repr

namespace Level

/-- The place of a level, the most severe one being the first. -/
def rank : Level → Nat
  | error => 1
  | warn => 2
  | info => 3
  | debug => 4
  | trace => 5

/-- Whether a level is severe enough for a limit; without a limit none is. -/
def passes (limit : Option Level) (l : Level) : Bool :=
  match limit with
  | none => false
  | some m => l.rank ≤ m.rank

/-- The name of a level as it stands in a record. -/
def label : Level → String
  | error => "ERROR"
  | warn => "WARN"
  | info => "INFO"
  | debug => "DEBUG"
  | trace => "TRACE"

end Level

/-- What can be told. -/
inductive Event
  | text (content : String) (active : Nat)
  | opened (name : String)
  | closed (name : String)
  | leftOpen (names : List String)
  | updated (glyphs : Nat) (width : Float32) (text : String)
  | registered (name : String)
  | removed (name : String)
  | kept (cause : Error)
deriving DecidableEq

namespace Event

/-- How severe an event is: what happens to a single token matters least. -/
def level : Event → Level
  | text .. | opened .. | closed .. => .trace
  | leftOpen .. => .warn
  | updated .. | registered .. | removed .. | kept .. => .debug

/-- The part of the library that tells of an event, as it stands in a record. -/
def source : Event → String
  | text .. | opened .. | closed .. | leftOpen .. => "textfx::engine"
  | updated .. => "textfx::instance"
  | registered .. | removed .. => "textfx::registry"
  | kept .. => "textfx::effects"

def message : Event → String
  | text content active =>
    "engine: text " ++ quoted content ++ " with " ++ active.repr ++ " active"
  | opened name => "engine: open `" ++ name ++ "`"
  | closed name => "engine: close `" ++ name ++ "`"
  | leftOpen names => "engine: tags left open at end of text: " ++ ", ".intercalate names
  | updated glyphs width shown =>
    "update: " ++ glyphs.repr ++ " glyphs, width " ++ hundredths width ++ ", text "
      ++ quoted shown
  | registered name => "registry: add effect `" ++ name ++ "`"
  | removed name => "registry: removed effect `" ++ name ++ "`"
  | kept cause => "effects: keeping existing definition: " ++ cause.message

def record (e : Event) : String :=
  "[" ++ e.level.label ++ "] " ++ e.source ++ ": " ++ e.message

end Event

/-! ## Journals -/

/-- A log that is being written. The program tells of events up to some level and of no others, at
first of none at all. Once there is a writer, it writes the records of those that pass its own limit
too. -/
structure Journal where
  maximum : Option Level
  writer : Option (Option Level)
  records : List String
deriving DecidableEq, Repr

namespace Journal

def idle : Journal := ⟨none, none, []⟩

def started (limit : Option Level) : Journal := ⟨limit, some limit, []⟩

/-- Starts a journal, unless it has a writer already. -/
def start? (j : Journal) (limit : Option Level) : Option Journal :=
  match j.writer with
  | none => some { j with maximum := limit, writer := some limit }
  | some _ => none

/-- What is said of a second start. -/
def alreadyStarted : String :=
  "attempted to set a logger after the logging system was already initialized"

/-- Whether the record of an event is written. -/
def writes (j : Journal) (e : Event) : Bool :=
  e.level.passes j.maximum && j.writer.any fun limit => e.level.passes limit

/-- Tells a journal of events. -/
def write (j : Journal) (events : List Event) : Journal :=
  { j with records := j.records ++ (events.filter j.writes).map Event.record }

/-- The text of a journal: its records, with a line feed after each. -/
def text (j : Journal) : String := String.join (j.records.map (· ++ "\n"))

/-- The lines of the text. A name with line feeds in it spreads its record over several lines. -/
def lines (j : Journal) : List String := Text.lines j.text

end Journal

end GlyphEffects
