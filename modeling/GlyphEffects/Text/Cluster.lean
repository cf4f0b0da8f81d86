import GlyphEffects.Text.Break

/-! # Clusters

A text is cut into clusters, each of which a reader takes for one character: a base with its
marks, a Hangul syllable, a conjunct of consonants, a flag, a sequence of joined emoji. The rules
are those of extended grapheme clusters.

Whether a character goes on a cluster depends on that cluster alone. All that a rule looks back
at (a pictograph before a joiner, the consonant before a linker, the first half of a flag) is held
together by other rules and so stands in the same cluster; thus a cluster is cut in the same way
wherever it stands.

* `Cluster.goesOn` decides whether a character goes on an open cluster.
* `Cluster.cut` cuts a list of characters, and `clusters` a string.
* `Cluster.flatten_cut` says that nothing is lost.
-/

namespace GlyphEffects.Text

namespace Cluster

/-- Whether the characters, latest first, are a pictograph with signs that extend it. -/
def endsInPictograph (cs : List Char) : Bool :=
  ((cs.dropWhile fun c => (Break.of c).isMark).head?.map Break.of) = some .pictograph

/-- Whether the characters, latest first, end in an odd number of halves of flags. -/
def endsInHalfFlag (cs : List Char) : Bool :=
  (cs.takeWhile fun c => Break.of c = .regional).length % 2 = 1

/-- Whether the characters, latest first, are a consonant with signs of which one links it. -/
def endsInLinked (cs : List Char) : Bool :=
  (cs.takeWhile fun c => (Break.of c).inConjunct).any (fun c => Break.of c = .linker) &&
    ((cs.dropWhile fun c => (Break.of c).inConjunct).head?.map Break.of) = some .consonant

/-- Whether `next` goes on the cluster whose characters are `last` and, latest first, `before`. -/
def follows (before : List Char) (last next : Char) : Bool :=
  if Break.of last = .carriageReturn ∧ Break.of next = .lineFeed then true
  else if (Break.of last).separates || (Break.of next).separates then false
  else
    (Break.of last).meets (Break.of next)
      || (Break.of next = .pictograph && Break.of last = .joiner && endsInPictograph before)
      || (Break.of next = .regional && endsInHalfFlag (last :: before))
      || (Break.of next = .consonant && endsInLinked (last :: before))

/-- Whether `next` goes on the open cluster, whose characters are given latest first. -/
def goesOn : List Char → Char → Bool
  | [], _ => false
  | last :: before, next => follows before last next

/-- Cuts the text that follows an open cluster, whose characters are given latest first. -/
def cutAfter (before : List Char) : List Char → List (List Char)
  | [] => [before.reverse]
  | c :: cs =>
    if goesOn before c then cutAfter (c :: before) cs else before.reverse :: cutAfter [c] cs

/-- Cuts a text into clusters. -/
def cut : List Char → List (List Char)
  | [] => []
  | c :: cs => cutAfter [c] cs

theorem flatten_cutAfter (before cs : List Char) :
    (cutAfter before cs).flatten = before.reverse ++ cs := by
  induction cs generalizing before with
  | nil => simp [cutAfter]
  | cons c cs ih => by_cases h : goesOn before c <;> simp [cutAfter, h, ih]

theorem flatten_cut (cs : List Char) : (cut cs).flatten = cs := by
  cases cs with
  | nil => rfl
  | cons c cs => simp [cut, flatten_cutAfter]

end Cluster

/-- The clusters of a string, in order. -/
def clusters (s : String) : List String := (Cluster.cut s.toList).map String.ofList

end GlyphEffects.Text
