import GuardedUi.Text.BreakTable

/-!
# `Text/Cluster` — what a reader takes for one character

A cluster is what stands on the page as one letter or sign, though it may be written with several
characters: a letter with the marks on it, a Hangul syllable, two line break characters, a flag, a
picture put together from others. Texts are cut into clusters by the rules of Unicode for extended
grapheme clusters, each of which looks at what has been read of the cluster and at the next
character.

`flatten_clusters` says that cutting loses nothing, `ne_nil_of_mem_clusters` that no cluster is
empty.
-/

set_option autoImplicit false

namespace GuardedUi.Text

/-- How a character behaves at the boundary of a cluster. -/
inductive BreakClass where
  | carriageReturn
  | lineFeed
  | control
  /-- A mark on the character before it. -/
  | extend
  /-- A mark that links consonants. -/
  | linker
  | joiner
  | spacing
  | prepend
  | regional
  /-- A leading, vowel or trailing part of a Hangul syllable, or a syllable without or with a
  trailing part. -/
  | leading
  | vowel
  | trailing
  | openSyllable
  | closedSyllable
  | pictograph
  | consonant
  | other
  deriving DecidableEq, Repr

namespace BreakClass

/-- The class of a Hangul letter or syllable. -/
def ofHangul? (c : Char) : Option BreakClass :=
  let n := c.toNat
  if (0x1100 ≤ n && n ≤ 0x115F) || (0xA960 ≤ n && n ≤ 0xA97C) then some leading
  else if (0x1160 ≤ n && n ≤ 0x11A7) || (0xD7B0 ≤ n && n ≤ 0xD7C6) then some vowel
  else if (0x11A8 ≤ n && n ≤ 0x11FF) || (0xD7CB ≤ n && n ≤ 0xD7FB) then some trailing
  else if 0xAC00 ≤ n && n ≤ 0xD7A3 then
    some (if (n - 0xAC00) % 28 = 0 then openSyllable else closedSyllable)
  else none

/-- The class of a character in ASCII. -/
def ofAscii (c : Char) : BreakClass :=
  if c = '\r' then carriageReturn
  else if c = '\n' then lineFeed
  else if c.toNat < 0x20 || c.toNat = 0x7F then control
  else other

/-- The class of a character. -/
def ofChar (c : Char) : BreakClass :=
  if c.toNat < 0x80 then ofAscii c
  else if c = '\u200d' then joiner
  else if 0x1F1E6 ≤ c.toNat && c.toNat ≤ 0x1F1FF then regional
  else if extendRanges.covers c then extend
  else if linkerRanges.covers c then linker
  else if spacingRanges.covers c then spacing
  else if prependRanges.covers c then prepend
  else if controlRanges.covers c then control
  else if pictographRanges.covers c then pictograph
  else if consonantRanges.covers c then consonant
  else (ofHangul? c).getD other

/-- Whether a class parts clusters at both of its sides. -/
def standsAlone (b : BreakClass) : Bool :=
  b = carriageReturn || b = lineFeed || b = control

/-- Whether a class never begins a cluster after a character that does not stand alone. -/
def continues (b : BreakClass) : Bool :=
  b = extend || b = linker || b = joiner || b = spacing

/-- Whether two parts of a Hangul syllable belong together. -/
def formsSyllable : BreakClass → BreakClass → Bool
  | leading, next => next = leading || next = vowel || next = openSyllable || next = closedSyllable
  | openSyllable, next | vowel, next => next = vowel || next = trailing
  | closedSyllable, next | trailing, next => next = trailing
  | _, _ => false

end BreakClass

/-- What the end of a cluster can be waiting for. -/
inductive Expectation where
  | nothing
  /-- A joiner after a picture and its marks. -/
  | joiner
  /-- A picture after a picture with a joiner. -/
  | pictograph
  /-- A linker after a consonant and its marks. -/
  | linker
  /-- A consonant after a consonant with a linker. -/
  | consonant
  /-- The second half of a flag. -/
  | regional
  deriving DecidableEq, Repr

namespace Expectation

/-- What is waited for after one more character of a cluster. -/
def next (e : Expectation) (b : BreakClass) : Expectation :=
  match b, e with
  | .pictograph, _ => joiner
  | .extend, joiner => joiner
  | .joiner, joiner => pictograph
  | .consonant, _ => linker
  | .linker, linker | .linker, consonant => consonant
  | .extend, linker | .joiner, linker => linker
  | .extend, consonant | .joiner, consonant => consonant
  | .linker, joiner => joiner
  | .regional, regional => nothing
  | .regional, _ => regional
  | _, _ => nothing

/-- Whether a character is what is waited for. -/
def metBy (e : Expectation) (b : BreakClass) : Bool :=
  (e = pictograph && b = .pictograph) || (e = consonant && b = .consonant) ||
    (e = regional && b = .regional)

end Expectation

/-- Whether a character continues a cluster that ends with the given class, waiting for
something. -/
def joinsCluster (e : Expectation) (previous next : BreakClass) : Bool :=
  if previous.standsAlone || next.standsAlone then
    previous = .carriageReturn && next = .lineFeed
  else next.continues || previous = .prepend || previous.formsSyllable next || e.metBy next

/-- The clusters of a text that begins inside the cluster `rev`, given backwards. -/
def clustersFrom (rev : List Char) (e : Expectation) (previous : BreakClass) :
    List Char → List (List Char)
  | [] => [rev.reverse]
  | c :: rest =>
    let b := BreakClass.ofChar c
    if joinsCluster e previous b then clustersFrom (c :: rev) (e.next b) b rest
    else rev.reverse :: clustersFrom [c] (Expectation.nothing.next b) b rest

/-- The clusters of a text. -/
def clusters : List Char → List (List Char)
  | [] => []
  | c :: rest =>
    clustersFrom [c] (Expectation.nothing.next (BreakClass.ofChar c)) (BreakClass.ofChar c) rest

/-! ## Cutting loses nothing -/

theorem flatten_clustersFrom (rev : List Char) (e : Expectation) (previous : BreakClass)
    (cs : List Char) : (clustersFrom rev e previous cs).flatten = rev.reverse ++ cs := by
  induction cs generalizing rev e previous with
  | nil => simp [clustersFrom]
  | cons c rest ih =>
    simp only [clustersFrom]
    split
    · rw [ih]
      simp
    · rw [List.flatten_cons, ih]
      simp

theorem flatten_clusters (cs : List Char) : (clusters cs).flatten = cs := by
  cases cs with
  | nil => rfl
  | cons c rest => exact flatten_clustersFrom [c] _ _ rest

theorem ne_nil_of_mem_clustersFrom {rev cluster : List Char} {e : Expectation}
    {previous : BreakClass} {cs : List Char} (hr : rev ≠ [])
    (h : cluster ∈ clustersFrom rev e previous cs) : cluster ≠ [] := by
  induction cs generalizing rev e previous with
  | nil =>
    rw [clustersFrom, List.mem_singleton] at h
    simpa [h] using hr
  | cons c rest ih =>
    simp only [clustersFrom] at h
    split at h
    · exact ih (by simp) h
    · rcases List.mem_cons.mp h with h | h
      · simpa [h] using hr
      · exact ih (by simp) h

theorem ne_nil_of_mem_clusters {cluster cs : List Char} (h : cluster ∈ clusters cs) :
    cluster ≠ [] := by
  cases cs with
  | nil => simp [clusters] at h
  | cons c rest => exact ne_nil_of_mem_clustersFrom (by simp) h

example : (clusters "ae\u0301\r\n-\u0308".toList).map String.ofList =
    ["a", "e\u0301", "\r\n", "-\u0308"] := by decide +kernel
example : (clusters "👩\u200d🚀🇩🇪🇫🇷각क्ष".toList).map String.ofList =
    ["👩\u200d🚀", "🇩🇪", "🇫🇷", "각", "क्ष"] := by decide +kernel

end GuardedUi.Text
