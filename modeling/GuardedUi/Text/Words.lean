import GuardedUi.Text.Cluster
import GuardedUi.Text.LetterCase

/-!
# `Text/Words` — words of a compound name, and camel case

A compound name such as `onValueChanged` or `long-press` is cut into words at separators and
where the case or class of its letters changes. `camelCase` writes the words together again, the
first in lower case and each later one with a capital.

A letter here is a cluster of characters, so a hyphen with a mark on it is not a separator, and a
letter keeps its accents. It has a case if its capital and its small form differ. Only the ASCII
digits are digits.
-/

set_option autoImplicit false

namespace GuardedUi.Text

/-- The clusters that part words and belong to none. -/
def isWordSeparator (letter : List Char) : Bool :=
  letter == ['_'] || letter == ['-'] || letter == [' ']

/-- Whether a letter is its own capital form, and not its small one. -/
def isCapital (letter : List Char) : Bool :=
  upper letter != lower letter && letter == upper letter

/-- Whether a letter is its own small form, and not its capital one. -/
def isSmall (letter : List Char) : Bool :=
  upper letter != lower letter && letter == lower letter

def isDigit (letter : List Char) : Bool :=
  letter.all Char.isDigit

def hasCase (letter : List Char) : Bool :=
  isCapital letter || isSmall letter

/-- Whether a new word begins at `next`, given the letter before it and the one after it: at a
change between letters and digits, at a capital after a small letter, and at the last capital of a
run of capitals when a small letter follows it. -/
def beginsWord (previous next : List Char) (after : Option (List Char)) : Bool :=
  (isSmall previous && isCapital next) ||
    (hasCase previous && isDigit next) || (isDigit previous && hasCase next) ||
    (isCapital previous && isCapital next && after.any isSmall)

/-- The words of a text of clusters, some of them empty; the first one begins inside the word that
ends with `previous`. -/
def cutWords (previous : Option (List Char)) : List (List Char) → List (List (List Char))
  | [] => [[]]
  | c :: rest =>
    if isWordSeparator c then [] :: cutWords none rest
    else
      match cutWords (some c) rest with
      | word :: words =>
        if previous.any fun p => beginsWord p c rest.head? then [] :: (c :: word) :: words
        else (c :: word) :: words
      | [] => [[c]]

/-- The words of a compound name, none of them empty, each as the letters that it is made of. -/
def words (name : List Char) : List (List (List Char)) :=
  (cutWords none (clusters name)).filter fun word => !word.isEmpty

/-- A word with a capital first letter and small letters after it. -/
def capitalize : List (List Char) → List Char
  | [] => []
  | letter :: rest => upper letter ++ lower rest.flatten

/-- The words of a name written together: the first in small letters, each later one capitalized. -/
def camelCase (name : List Char) : List Char :=
  match words name with
  | [] => []
  | first :: rest => lower first.flatten ++ rest.flatMap capitalize

example : camelCase "on_value-changed".toList = "onValueChanged".toList := by decide +kernel
example : camelCase "URLChange".toList = "urlChange".toList := by decide +kernel
example : camelCase "click2Go".toList = "click2Go".toList := by decide +kernel
example : camelCase "ΟΔΟΣ_ΑΣ".toList = "οδοςΑσ".toList := by decide +kernel

end GuardedUi.Text
