import GlyphEffects.Text.BreakRanges

/-! # Break classes

Every character has one class, which says how it may hang together with its neighbours. The
classes are those of the property Grapheme_Cluster_Break, with pictographs and with the classes of
Indic_Conjunct_Break told apart.

* `Break.of` is the class of a character.
* `Break.attaches` and `Break.separates` are the classes that never start a cluster and those that
  stand alone.
* `Break.meets` is the table of the classes of which one may directly follow the other.
-/

namespace GlyphEffects.Text

/-- How a character may hang together with its neighbours. -/
inductive Break
  | other
  | carriageReturn
  | lineFeed
  | control
  | mark
  | linker
  | nonJoiner
  | joiner
  | spacingMark
  | prepended
  | regional
  | leading
  | vowel
  | trailing
  | openSyllable
  | closedSyllable
  | pictograph
  | consonant
deriving DecidableEq, Repr

namespace Break

/-- The class of an ASCII character. -/
def ofAscii (c : Char) : Break :=
  if c = '\r' then carriageReturn
  else if c = '\n' then lineFeed
  else if c.toNat < 0x20 ∨ c.toNat = 0x7F then control
  else other

/-- The class of a precomposed Hangul syllable: every 28th one has no final consonant. -/
def ofSyllable (c : Char) : Break :=
  if (c.toNat - 0xAC00) % 28 = 0 then openSyllable else closedSyllable

/-- The class of a character outside ASCII. -/
def ofWide (c : Char) : Break :=
  if c = '\u200c' then nonJoiner
  else if c = '\u200d' then joiner
  else if 0xAC00 ≤ c.toNat ∧ c.toNat ≤ 0xD7A3 then ofSyllable c
  else if 0x1F1E6 ≤ c.toNat ∧ c.toNat ≤ 0x1F1FF then regional
  else if marks.has c then mark
  else if linkers.has c then linker
  else if spacingMarks.has c then spacingMark
  else if controls.has c then control
  else if prepends.has c then prepended
  else if leadingJamo.has c then leading
  else if vowelJamo.has c then vowel
  else if trailingJamo.has c then trailing
  else if pictographs.has c then pictograph
  else if consonants.has c then consonant
  else other

def of (c : Char) : Break := if c.toNat < 0x80 then ofAscii c else ofWide c

/-- Controls and line ends stand alone. -/
def separates : Break → Bool
  | carriageReturn | lineFeed | control => true
  | _ => false

/-- Signs that extend what they follow. -/
def isMark : Break → Bool
  | mark | linker | nonJoiner => true
  | _ => false

/-- Signs that never start a cluster unless nothing stands before them. -/
def attaches : Break → Bool
  | mark | linker | nonJoiner | joiner | spacingMark => true
  | _ => false

/-- Signs between two consonants of one conjunct. -/
def inConjunct : Break → Bool
  | mark | linker | joiner => true
  | _ => false

/-- The parts of Hangul syllables that follow each other within one syllable. -/
def inSyllable : Break → Break → Bool
  | leading, leading | leading, vowel | leading, openSyllable | leading, closedSyllable => true
  | openSyllable, vowel | openSyllable, trailing | vowel, vowel | vowel, trailing => true
  | closedSyllable, trailing | trailing, trailing => true
  | _, _ => false

/-- Whether two characters of these classes hang together whatever stands before them. -/
def meets (last next : Break) : Bool :=
  inSyllable last next || attaches next || last = prepended

end Break

end GlyphEffects.Text
