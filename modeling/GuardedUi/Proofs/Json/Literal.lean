import GuardedUi.Json.Token
import GuardedUi.Json.Literal
import GuardedUi.Proofs.Number.Finite
import GuardedUi.Proofs.Number.Numeral
import Mathlib.Data.List.TakeWhile

/-!
# `Proofs/Json/Literal` — what a number literal can be

A literal that can be read is made of the characters of words (`isWordChar_of_ofChars?`), and its
significand fits a word of 64 bits, however many digits it has (`significand_le`). So its value is
within the doubles:

> **The value of a literal that was read is finite** (`isFinite_of_number?`).

In the other direction, the digits of a natural number are a literal of that number
(`ofChars?_digits`).
-/

set_option autoImplicit false

namespace GuardedUi.Json.Literal

open Token

/-! ## Parts -/

theorem isWordChar_of_isDigit {c : Char} (h : c.isDigit = true) : isWordChar c = true := by
  simp [isWordChar, Char.isAlphanum, h]

theorem isWordChar_of_fraction? {cs digits rest : List Char}
    (h : fraction? cs = some (digits, rest)) (hrest : ∀ c ∈ rest, isWordChar c = true) :
    ∀ c ∈ cs, isWordChar c = true := by
  unfold fraction? at h
  split at h
  · rename_i text
    split at h
    rename_i run left hspan
    obtain ⟨rfl, rfl⟩ := Prod.mk.inj hspan
    split at h
    · cases h
    · obtain ⟨-, rfl⟩ := Prod.mk.inj (Option.some.inj h)
      intro c hc
      rcases List.mem_cons.mp hc with rfl | hc
      · decide
      · rw [← List.takeWhile_append_dropWhile (p := Char.isDigit) (l := text)] at hc
        rcases List.mem_append.mp hc with hc | hc
        · exact isWordChar_of_isDigit (List.all_eq_true.mp List.all_takeWhile c hc)
        · exact hrest c hc
  · obtain ⟨-, rfl⟩ := Prod.mk.inj (Option.some.inj h)
    exact hrest

theorem mem_of_mem_signed {cs : List Char} {c : Char} (hc : c ∈ cs) :
    c = '-' ∨ c = '+' ∨ c ∈ (signed cs).2 := by
  unfold signed
  split
  · exact (List.mem_cons.mp hc).imp_right Or.inr
  · exact Or.inr (List.mem_cons.mp hc)
  · exact Or.inr (Or.inr hc)

theorem isWordChar_of_exponent? {cs : List Char} {exponent : Option Int}
    (h : exponent? cs = some exponent) : ∀ c ∈ cs, isWordChar c = true := by
  unfold exponent? at h
  split at h
  · simp
  · rename_i e rest
    split at h
    · rename_i he
      simp only at h
      split at h
      · cases h
      · rename_i hdigits
        simp only [Bool.or_eq_true, Bool.not_eq_true', not_or, Bool.not_eq_false,
          List.all_eq_true] at hdigits
        intro c hc
        rcases List.mem_cons.mp hc with rfl | hc
        · rcases he with rfl | rfl <;> decide
        · rcases mem_of_mem_signed hc with rfl | rfl | hc
          · decide
          · decide
          · exact isWordChar_of_isDigit (hdigits.2 c hc)
    · cases h

theorem exists_sign {cs rest : List Char} {negative : Bool}
    (h : (match cs with
      | '-' :: rest => (true, rest)
      | _ => (false, cs)) = (negative, rest)) :
    ∃ sign, cs = sign ++ rest ∧ ∀ c ∈ sign, c = '-' := by
  split at h
  · obtain ⟨-, rfl⟩ := Prod.mk.inj h
    exact ⟨['-'], rfl, by simp⟩
  · obtain ⟨-, rfl⟩ := Prod.mk.inj h
    exact ⟨[], rfl, by simp⟩

/-- A literal is a sign, digits, and what opens a fraction or an exponent; the significand comes from
the digits before and behind the point. -/
theorem exists_parts {cs : List Char} {l : Literal} (h : ofChars? cs = some l) :
    ∃ sign integer tail digits rest exponent, cs = sign ++ (integer ++ tail) ∧
      (∀ c ∈ sign, c = '-') ∧ integer ≠ [] ∧ (∀ c ∈ integer, c.isDigit = true) ∧
      fraction? tail = some (digits, rest) ∧ exponent? rest = some exponent ∧
      l.significand = (takeDigits (takeDigits 0 integer).1 digits).1 := by
  unfold ofChars? at h
  split at h
  rename_i negative unsigned hs
  obtain ⟨sign, rfl, hminus⟩ := exists_sign hs
  split at h
  rename_i integer tail hspan
  obtain ⟨hinteger, htail⟩ := Prod.mk.inj hspan
  split at h
  · cases h
  · rename_i hlead
    simp only [Bool.or_eq_true, not_or, List.isEmpty_iff] at hlead
    split at h
    · cases h
    · rename_i digits rest hfraction
      split at h
      · cases h
      · rename_i exponent hexponent
        have hdigits : ∀ c ∈ integer, c.isDigit = true := by
          rw [← hinteger]
          exact List.all_eq_true.mp List.all_takeWhile
        refine ⟨sign, integer, tail, digits, rest, exponent, ?_, hminus, hlead.1, hdigits,
          hfraction, hexponent, ?_⟩
        · rw [← hinteger, ← htail, List.takeWhile_append_dropWhile]
        · exact (Option.some.inj h) ▸ rfl

/-- **A literal is a word.** -/
theorem isWordChar_of_ofChars? {cs : List Char} {l : Literal} (h : ofChars? cs = some l) :
    cs ≠ [] ∧ ∀ c ∈ cs, isWordChar c = true := by
  obtain ⟨sign, integer, tail, digits, rest, exponent, rfl, hsign, hne, hinteger, hfraction,
    hexponent, -⟩ := exists_parts h
  refine ⟨by simp [hne], fun c hc => ?_⟩
  rcases List.mem_append.mp hc with hc | hc
  · rw [hsign c hc]
    decide
  · rcases List.mem_append.mp hc with hc | hc
    · exact isWordChar_of_isDigit (hinteger c hc)
    · exact isWordChar_of_fraction? hfraction (isWordChar_of_exponent? hexponent) c hc

/-! ## Significands -/

theorem takeDigits_le {n : Nat} (h : n ≤ greatestWord) (cs : List Char) :
    (takeDigits n cs).1 ≤ greatestWord := by
  induction cs generalizing n with
  | nil => exact h
  | cons c rest ih =>
    rw [takeDigits]
    split
    · exact ih ‹_›
    · exact h

/-- **A significand fits a word.** -/
theorem significand_le {cs : List Char} {l : Literal} (h : ofChars? cs = some l) :
    l.significand ≤ greatestWord := by
  obtain ⟨_, _, _, _, _, _, -, -, -, -, -, -, hsignificand⟩ := exists_parts h
  rw [hsignificand]
  exact takeDigits_le (takeDigits_le (Nat.zero_le _) _) _

/-! ## Values -/

theorem isFinite_of_scale? {fuel : Nat} {d : Double} (h : d.isFinite = true) {exponent : Int}
    {result : Double} (hs : scale? fuel d exponent = some result) : result.isFinite = true := by
  induction fuel generalizing d exponent with
  | zero =>
    obtain rfl := Option.some.inj hs
    exact h
  | succ fuel ih =>
    rw [scale?] at hs
    split at hs
    · rename_i hsmall
      split at hs
      · -- A product is checked.
        simp only at hs
        split at hs
        · obtain rfl := Option.some.inj hs
          assumption
        · cases hs
      · obtain rfl := Option.some.inj hs
        exact Double.isFinite_div_powerOfTen h (by omega) hsmall
    · split at hs
      · obtain rfl := Option.some.inj hs
        exact h
      · split at hs
        · cases hs
        · exact ih (Double.isFinite_div_powerOfTen h (by decide) (Nat.le_refl greatestPower)) hs

/-- **The value of a literal is finite**, if its significand fits a word. -/
theorem isFinite_of_number? {l : Literal} (hl : l.significand ≤ greatestWord) {n : Number}
    (h : l.number? = some n) : n.toDouble.isFinite = true := by
  have hword : greatestWord < Nat.pow 2 64 := by decide
  have hpositive : (Double.ofInt l.significand).isFinite = true :=
    Double.isFinite_ofInt (by omega)
  rw [number?] at h
  split at h
  · obtain rfl := Option.some.inj h
    exact hpositive
  · split at h
    · obtain rfl := Option.some.inj h
      exact Double.isFinite_ofInt (by omega)
    · obtain ⟨d, hd, rfl⟩ := Option.map_eq_some_iff.mp h
      have hfinite := isFinite_of_scale? hpositive hd
      show (if l.negative = true then d.neg else d).isFinite = true
      split
      · exact Double.isFinite_neg hfinite
      · exact hfinite

/-! ## Natural numbers -/

theorem withDigit_ofDigitChars (n : Nat) (c : Char) (cs : List Char) :
    Nat.ofDigitChars 10 (c :: cs) n = Nat.ofDigitChars 10 cs (withDigit n c) :=
  Nat.ofDigitChars_cons

theorem le_ofDigitChars (n : Nat) (cs : List Char) : n ≤ Nat.ofDigitChars 10 cs n := by
  induction cs generalizing n with
  | nil => exact Nat.le_refl n
  | cons c rest ih =>
    rw [withDigit_ofDigitChars]
    have hstep : n ≤ withDigit n c := by
      rw [withDigit]
      omega
    exact Nat.le_trans hstep (ih _)

/-- All digits are taken if their number fits a word. -/
theorem takeDigits_eq {n : Nat} {cs : List Char} (h : Nat.ofDigitChars 10 cs n ≤ greatestWord) :
    takeDigits n cs = (Nat.ofDigitChars 10 cs n, 0) := by
  induction cs generalizing n with
  | nil => rfl
  | cons c rest ih =>
    rw [withDigit_ofDigitChars] at h ⊢
    rw [takeDigits, if_pos (Nat.le_trans (le_ofDigitChars _ rest) h)]
    exact ih h

/-- **The digits of a natural number are a literal of it.** -/
theorem ofChars?_digits {n : Nat} (h : n ≤ greatestWord) :
    ofChars? (Nat.toDigits 10 n) = some ⟨false, n, 0, true⟩ := by
  have hdigits : ∀ c ∈ Nat.toDigits 10 n, c.isDigit = true :=
    fun c hc => Nat.isDigit_of_mem_toDigits (by decide) (by decide) hc
  have hspan : spanDigits (Nat.toDigits 10 n) = (Nat.toDigits 10 n, []) := by
    rw [spanDigits, List.takeWhile_eq_self_iff.mpr hdigits, List.dropWhile_eq_nil_iff.mpr hdigits]
  have hlead : ((Nat.toDigits 10 n).isEmpty || ((Nat.toDigits 10 n).head? == some '0' &&
      decide (1 < (Nat.toDigits 10 n).length))) = false := by
    rw [Bool.or_eq_false_iff, List.isEmpty_eq_false_iff, Bool.and_eq_false_iff]
    refine ⟨Nat.toDigits_ne_nil, ?_⟩
    by_cases hzero : n = 0
    · subst hzero
      exact Or.inr (by decide)
    · have hfront := head?_toDigits (by decide : 1 < 10) (Nat.pos_of_ne_zero hzero)
      exact Or.inl (beq_eq_false_iff_ne.mpr hfront)
  have htake : takeDigits 0 (Nat.toDigits 10 n) = (n, 0) := by
    have hvalue := Nat.ofDigitChars_ten_toDigits (n := n)
    rw [takeDigits_eq (hvalue.symm ▸ h), hvalue]
  unfold ofChars?
  split
  rename_i negative rest hs
  split at hs
  · -- A minus sign is no digit.
    rename_i hminus
    exact absurd (hdigits '-' (hminus ▸ List.mem_cons_self)) (by decide)
  · obtain ⟨rfl, rfl⟩ := Prod.mk.inj hs
    simp only [hspan, hlead, fraction?, exponent?, htake, takeDigits]
    rfl

end GuardedUi.Json.Literal
