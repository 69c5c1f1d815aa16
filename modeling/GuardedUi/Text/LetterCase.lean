import GuardedUi.Text.CaseTable

/-!
# `Text/LetterCase` — capital and small forms of texts

The capital and the small form of a text, letter by letter, by the full case mappings of Unicode: a
letter may become several, as the capital form of `ß` is `SS`, and a letter without the other form
stays as it is.

The one letter whose form depends on the text around it is the capital sigma. At the end of a word
its small form is another one than elsewhere, so `lower` looks for a letter on both sides of it.
-/

set_option autoImplicit false

namespace GuardedUi.Text

def mapByRuns (runs : List CaseRun) (c : Char) : Char :=
  match runs.findSome? fun run => run.map? c.toNat with
  | some n => Char.ofNat n
  | none => c

def upperLetter (c : Char) : List Char :=
  if c.toNat < 0x80 then [c.toUpper]
  else
    match capitalExpansions.lookup c.toNat with
    | some letters => letters.map Char.ofNat
    | none => [mapByRuns capitalRuns c]

/-- The small form of a letter that does not depend on its neighbours. -/
def lowerLetter (c : Char) : List Char :=
  if c.toNat < 0x80 then [c.toLower]
  else if c = 'İ' then ['i', '\u0307']
  else [mapByRuns smallRuns c]

def upper (cs : List Char) : List Char :=
  cs.flatMap upperLetter

/-- Whether a text begins with a letter that has a case, apart from what is passed over. -/
def leadsToLetter (cs : List Char) : Bool :=
  ((cs.dropWhile ignorableRanges.covers).head?.map casedRanges.covers).getD false

/-- The small form of a sigma between two texts, the first of them given backwards. -/
def lowerSigma (before after : List Char) : Char :=
  if leadsToLetter before && !leadsToLetter after then 'ς' else 'σ'

/-- The small form of a text that follows another one, which is given backwards. -/
def lowerFrom (before : List Char) : List Char → List Char
  | [] => []
  | c :: rest =>
    (if c = 'Σ' then [lowerSigma before rest] else lowerLetter c) ++ lowerFrom (c :: before) rest

def lower (cs : List Char) : List Char :=
  lowerFrom [] cs

example : upper "Straße ŉ ǆ".toList = "STRASSE ʼN Ǆ".toList := by decide +kernel
example : lower "ΟΔΟΣ Σ ΑΣΑ İ".toList = "οδος σ ασα i̇".toList := by decide +kernel

end GuardedUi.Text
