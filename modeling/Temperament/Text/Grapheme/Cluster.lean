import Temperament.Text.Grapheme.Ranges

/-!
# Grapheme clusters

A text falls into clusters, the characters as a reader perceives them: a letter with its accents, a
Hangul syllable, a conjunct, a flag, pictographs that are joined to one.  Whether a character joins
the cluster before it depends on its part and on what the text before it ends in.  The clusters of a
text make up the text (`flatten_clusters`).
-/

namespace Temperament.Text.Grapheme

/-! ## Parts -/

/-- What part a character has in a cluster. -/
inductive Part
  | carriageReturn
  | lineFeed
  | control
  | extend
  /-- The joiner, which joins pictographs. -/
  | joiner
  /-- The non-joiner, a mark that ends a conjunct. -/
  | nonJoiner
  | spacing
  | prepended
  /-- One of two letters that make a flag. -/
  | regional
  | pictographic
  | conjunctConsonant
  | conjunctLinker
  /-- A consonant at the beginning of a Hangul syllable. -/
  | leading
  | vowel
  /-- A consonant at the end of a Hangul syllable. -/
  | trailing
  /-- A Hangul syllable that ends in its vowel. -/
  | openSyllable
  | closedSyllable
  | other
  deriving DecidableEq, Inhabited

namespace Part

def leadingRanges : Ranges := [(0x1100, 0x115F), (0xA960, 0xA97C)]

def vowelRanges : Ranges :=
  [(0x1160, 0x11A7), (0xD7B0, 0xD7C6), (0x16D63, 0x16D63), (0x16D67, 0x16D6A)]

def trailingRanges : Ranges := [(0x11A8, 0x11FF), (0xD7CB, 0xD7FB)]

def syllableRanges : Ranges := [(0xAC00, 0xD7A3)]

def regionalRanges : Ranges := [(0x1F1E6, 0x1F1FF)]

/-- The characters of ASCII that are shown. -/
def plainRanges : Ranges := [(0x20, 0x7E)]

/-- Syllables come in groups of one without and 27 with a consonant at the end. -/
def syllable (c : Char) : Part :=
  if (c.toNat - 0xAC00) % 28 = 0 then openSyllable else closedSyllable

def table : List (Ranges × Part) :=
  [(plainRanges, other), (controlRanges, control), (conjunctLinkerRanges, conjunctLinker),
    (extendRanges, extend), (spacingRanges, spacing), (prependedRanges, prepended),
    (regionalRanges, regional), (pictographicRanges, pictographic),
    (conjunctConsonantRanges, conjunctConsonant), (leadingRanges, leading), (vowelRanges, vowel),
    (trailingRanges, trailing)]

def ofChar (c : Char) : Part :=
  if c = '\r' then carriageReturn
  else if c = '\n' then lineFeed
  else if c = '\u200D' then joiner
  else if c = '\u200C' then nonJoiner
  else if syllableRanges.contains c then syllable c
  else
    match table.find? (·.1.contains c) with
    | some (_, part) => part
    | none => other

/-- The parts that join any character but a control. -/
def isMark : Part → Bool
  | extend | nonJoiner | conjunctLinker => true
  | _ => false

/-- The pairs of parts that belong to one Hangul syllable. -/
def joinsInSyllable : Part → Part → Bool
  | leading, next => next = leading || next = vowel || next = openSyllable || next = closedSyllable
  | openSyllable, next | vowel, next => next = vowel || next = trailing
  | closedSyllable, next | trailing, next => next = trailing
  | _, _ => false

def isBreak : Part → Bool
  | carriageReturn | lineFeed | control => true
  | _ => false

end Part

/-! ## What a text ends in -/

/-- How far a sequence is that joins one more character once it is ready. -/
inductive Stage
  | absent
  | begun
  | ready
  deriving DecidableEq, Inhabited

/-- What a text ends in, as far as it matters to the next character. -/
structure Ending where
  last : Part
  /-- Whether the number of regional letters at the end is odd. -/
  isHalfFlag : Bool := false
  /-- Begun by a pictograph with its marks, ready right after a joiner. -/
  pictograph : Stage := .absent
  /-- Begun by a consonant, ready with a linker among the marks after it. -/
  conjunct : Stage := .absent
  deriving DecidableEq

namespace Ending

def pictographAfter (e : Ending) (part : Part) : Stage :=
  if part = .pictographic then .begun
  else if e.pictograph ≠ .begun then .absent
  else if part = .joiner then .ready
  else if part.isMark then .begun
  else .absent

def conjunctAfter (e : Ending) : Part → Stage
  | .conjunctConsonant => .begun
  | .conjunctLinker => if e.conjunct = .absent then .absent else .ready
  | .extend | .joiner => e.conjunct
  | _ => .absent

/-- What the text ends in with one more character. -/
def after (e : Ending) (part : Part) : Ending where
  last := part
  isHalfFlag := part = .regional && !e.isHalfFlag
  pictograph := e.pictographAfter part
  conjunct := e.conjunctAfter part

/-- What a text of one character ends in. -/
def first (part : Part) : Ending :=
  after { last := .control } part

/-- Whether one more character joins the last cluster. -/
def joins (e : Ending) (part : Part) : Bool :=
  if e.last = .carriageReturn && part = .lineFeed then true
  else if e.last.isBreak || part.isBreak then false
  else
    part.isMark || part = .joiner || part = .spacing || e.last = .prepended ||
      e.last.joinsInSyllable part ||
      part = .conjunctConsonant && e.conjunct = .ready ||
      part = .pictographic && e.pictograph = .ready ||
      part = .regional && e.isHalfFlag

end Ending

/-! ## Clusters -/

/-- The clusters of a text, with the characters of the first one that are read already. -/
def clustersAfter (e : Ending) (cluster : List Char) : List Char → List (List Char)
  | [] => [cluster]
  | c :: cs =>
    let part := Part.ofChar c
    if e.joins part then clustersAfter (e.after part) (cluster ++ [c]) cs
    else cluster :: clustersAfter (e.after part) [c] cs

def clusters : List Char → List (List Char)
  | [] => []
  | c :: cs => clustersAfter (.first (Part.ofChar c)) [c] cs

theorem flatten_clustersAfter (e : Ending) (cluster cs : List Char) :
    (clustersAfter e cluster cs).flatten = cluster ++ cs := by
  induction cs generalizing e cluster with
  | nil => simp [clustersAfter]
  | cons c cs ih =>
    simp only [clustersAfter]
    split <;> simp [ih]

theorem flatten_clusters (cs : List Char) : (clusters cs).flatten = cs := by
  cases cs with
  | nil => rfl
  | cons c cs => simp [clusters, flatten_clustersAfter]

end Temperament.Text.Grapheme
