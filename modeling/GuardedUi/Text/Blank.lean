/-!
# `Text/Blank` — white space and trimming

Marker comments, handler names and answers to questions are all read up to white space, and all
of them mean the same class of characters: the Unicode property `White_Space`. It is written out
as a table here, because the character predicates of the core library know only its ASCII part.

Trimming works on lists of characters. A trimmed text is the text without its longest blank run
at one end (`trimStart`, `trimEnd`) or at both (`trim`).
-/

set_option autoImplicit false

namespace GuardedUi.Text

/-- The characters of the Unicode property `White_Space`. -/
def isBlank (c : Char) : Bool :=
  let n := c.toNat
  (9 ≤ n && n ≤ 13) || n == 0x20 || n == 0x85 || n == 0xA0 || n == 0x1680 ||
    (0x2000 ≤ n && n ≤ 0x200A) || n == 0x2028 || n == 0x2029 || n == 0x202F || n == 0x205F ||
    n == 0x3000

/-- What is left of a text after its leading blank run. -/
def trimStart (cs : List Char) : List Char :=
  cs.dropWhile isBlank

/-- What is left of a text before its trailing blank run. -/
def trimEnd (cs : List Char) : List Char :=
  (cs.reverse.dropWhile isBlank).reverse

def trim (cs : List Char) : List Char :=
  trimEnd (trimStart cs)

/-- Whether every character is blank; true of the empty text. -/
def allBlank (cs : List Char) : Bool :=
  cs.all isBlank

def trimmed (s : String) : String :=
  String.ofList (trim s.toList)

/-! ## The table against the ASCII class

The core library's `Char.isWhitespace` is the ASCII part that programs usually mean; the property
holds of all of it, and also of the vertical tab and the form feed. -/

theorem isBlank_of_isWhitespace {c : Char} (h : c.isWhitespace = true) : isBlank c = true := by
  simp only [Char.isWhitespace, Bool.or_eq_true, decide_eq_true_eq] at h
  rcases h with ((h | h) | h) | h <;> subst h <;> decide

example : isBlank '\x0b' = true ∧ isBlank '\x0c' = true ∧ isBlank '\u200b' = false := by decide

/-! ## Trimming at the end -/

/-- Blanks at the end make no difference. -/
theorem trimEnd_append_blank {blanks : List Char} (text : List Char)
    (h : ∀ c ∈ blanks, isBlank c = true) : trimEnd (text ++ blanks) = trimEnd text := by
  have hr : ∀ c ∈ blanks.reverse, isBlank c = true := fun c hc => h c (List.mem_reverse.mp hc)
  rw [trimEnd, List.reverse_append, List.dropWhile_append_of_pos hr]
  rfl

/-- What trimming leaves away is blank. -/
theorem exists_blanks_of_trimEnd (text : List Char) :
    ∃ blanks, (∀ c ∈ blanks, isBlank c = true) ∧ text = trimEnd text ++ blanks := by
  refine ⟨(text.reverse.takeWhile isBlank).reverse, fun c hc => ?_, ?_⟩
  · exact List.all_eq_true.mp List.all_takeWhile c (List.mem_reverse.mp hc)
  · rw [trimEnd, ← List.reverse_append, List.takeWhile_append_dropWhile, List.reverse_reverse]

theorem trimEnd_trimEnd (text : List Char) : trimEnd (trimEnd text) = trimEnd text := by
  obtain ⟨blanks, hblanks, htext⟩ := exists_blanks_of_trimEnd text
  have h := trimEnd_append_blank (trimEnd text) hblanks
  rw [← htext] at h
  exact h.symm

theorem trimEnd_isPrefix (text : List Char) : trimEnd text <+: text := by
  obtain ⟨blanks, -, htext⟩ := exists_blanks_of_trimEnd text
  exact ⟨blanks, htext.symm⟩

/-! ## Trimming at both ends -/

theorem mem_trimEnd {text : List Char} {c : Char} (hc : c ∈ text) (hb : isBlank c = false) :
    c ∈ trimEnd text := by
  obtain ⟨blanks, hblanks, htext⟩ := exists_blanks_of_trimEnd text
  rw [htext] at hc
  rcases List.mem_append.mp hc with hc | hc
  · exact hc
  · exact absurd (hblanks c hc) (by simp [hb])

theorem mem_trimStart {text : List Char} {c : Char} (hc : c ∈ text) (hb : isBlank c = false) :
    c ∈ trimStart text := by
  rw [← List.takeWhile_append_dropWhile (p := isBlank) (l := text)] at hc
  rcases List.mem_append.mp hc with hc | hc
  · exact absurd (List.all_eq_true.mp List.all_takeWhile c hc) (by simp [hb])
  · exact hc

/-- Trimming leaves away blanks only, so what is not blank stays not blank. -/
theorem allBlank_trim (text : List Char) : allBlank (trim text) = true → allBlank text = true := by
  simp only [allBlank, List.all_eq_true]
  intro h c hc
  cases hb : isBlank c with
  | true => rfl
  | false => exact absurd (h c (mem_trimEnd (mem_trimStart hc hb) hb)) (by simp [hb])

/-- A text that begins with no blank goes on doing so without its end. -/
theorem trimStart_trimEnd (text : List Char) : trimStart (trimEnd (trimStart text)) =
    trimEnd (trimStart text) := by
  cases hstart : trimStart text with
  | nil => rfl
  | cons c rest =>
    have hc : isBlank c = false := by
      have hhead := List.head?_dropWhile_not isBlank text
      rw [show text.dropWhile isBlank = c :: rest from hstart] at hhead
      simpa using hhead
    obtain ⟨back, hback⟩ := trimEnd_isPrefix (c :: rest)
    cases hend : trimEnd (c :: rest) with
    | nil => rfl
    | cons d front =>
      rw [hend] at hback
      obtain ⟨rfl, -⟩ := List.cons.inj hback
      rw [trimStart, List.dropWhile_cons, if_neg (by simp [hc])]

/-- Trimming twice is trimming once. -/
theorem trim_trim (text : List Char) : trim (trim text) = trim text := by
  rw [trim, trim, trimStart_trimEnd, trimEnd_trimEnd]

/-- A text without blanks is not trimmed. -/
theorem trim_eq_self {text : List Char} (h : ∀ c ∈ text, isBlank c = false) : trim text = text := by
  have hdrop : ∀ cs : List Char, (∀ c ∈ cs, isBlank c = false) → cs.dropWhile isBlank = cs := by
    intro cs hcs
    cases cs with
    | nil => rfl
    | cons c rest => rw [List.dropWhile_cons, hcs c List.mem_cons_self, if_neg Bool.false_ne_true]
  rw [trim, trimStart, hdrop text h, trimEnd, hdrop _ fun c hc => h c (List.mem_reverse.mp hc),
    List.reverse_reverse]

end GuardedUi.Text
