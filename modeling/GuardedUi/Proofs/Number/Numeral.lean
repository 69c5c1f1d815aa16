import GuardedUi.Number.Numeral
import Mathlib.Data.Nat.Digits.Defs

/-!
# `Proofs/Number/Numeral` — what a text of digits says

A numeral is told by reading it: every character is a digit of the base, the digits add up to the
number, and there are no more zeros in front than were asked for (`IsNumeral`). A width of one is
the common form, in which only zero itself begins with a zero.

> **The digits of a number are its numeral** (`isNumeral_toDigits`), **and zeros in front make it as
> wide as is wanted** (`IsNumeral.pad`).

With a minus sign in front of negative numbers this becomes the numeral of an integer
(`IsIntegerNumeral`). No text is the numeral of two integers (`IsIntegerNumeral.eq`).
-/

set_option autoImplicit false

namespace GuardedUi

/-- The digits in the order of their values. -/
def digitSymbols : List Char :=
  ['0', '1', '2', '3', '4', '5', '6', '7', '8', '9', 'a', 'b', 'c', 'd', 'e', 'f']

/-- The value of a digit. Other characters, capital letters too, get one above that of any digit. -/
def digitValue (c : Char) : ℕ :=
  digitSymbols.idxOf c

/-- The number that digits stand for, the last one counting once. -/
def numberOf (base : ℕ) (cs : List Char) : ℕ :=
  Nat.ofDigits base (cs.reverse.map digitValue)

/-- The text is the numeral of a number with at least `width` digits. It has more only where they are
needed, so that none of these begins with a zero. -/
structure IsNumeral (base width : ℕ) (cs : List Char) (n : ℕ) : Prop where
  digits : ∀ c ∈ cs, digitValue c < base
  number : numberOf base cs = n
  wide : width ≤ cs.length
  lead : width < cs.length → cs.head? ≠ some '0'

/-- The text is the decimal numeral of an integer: a minus sign if it is negative, then digits. -/
def IsIntegerNumeral (text : String) (i : ℤ) : Prop :=
  ∃ digits, text.toList = (if i < 0 then ['-'] else []) ++ digits ∧
    IsNumeral 10 1 digits i.natAbs

/-! ## Digits -/

theorem digitValue_digitChar : ∀ v < 16, digitValue v.digitChar = v := by decide

theorem numberOf_concat (base : ℕ) (cs : List Char) (c : Char) :
    numberOf base (cs ++ [c]) = base * numberOf base cs + digitValue c := by
  rw [numberOf, List.reverse_concat, List.map_cons, Nat.ofDigits_cons, Nat.add_comm]
  rfl

theorem numberOf_zeros_append (base k : ℕ) (cs : List Char) :
    numberOf base (List.replicate k '0' ++ cs) = numberOf base cs := by
  have hzero : digitValue '0' = 0 := by decide
  rw [numberOf, List.reverse_append, List.reverse_replicate, List.map_append, List.map_replicate,
    hzero, Nat.ofDigits_append_replicate_zero, numberOf]

/-- Only zero has a digit zero in front. -/
theorem head?_toDigits {base n : ℕ} (hbase : 1 < base) (h : 0 < n) :
    (Nat.toDigits base n).head? ≠ some '0' := by
  induction n using Nat.strongRecOn with
  | ind n ih =>
    by_cases hsmall : n < base
    · rw [Nat.toDigits_of_lt_base hsmall]
      simpa using h.ne'
    · have hle : base ≤ n := Nat.not_lt.mp hsmall
      have hfront := ih (n / base) (Nat.div_lt_self h hbase) (Nat.div_pos hle (by omega))
      obtain ⟨c, rest, hdigits⟩ := List.exists_cons_of_ne_nil
        (Nat.toDigits_ne_nil (n := n / base) (b := base))
      rw [hdigits] at hfront
      rw [Nat.toDigits_of_base_le hbase hle, hdigits]
      exact hfront

/-! ## Numerals -/

/-- **The digits of a number are its numeral.** -/
theorem isNumeral_toDigits {base : ℕ} (hbase : 1 < base) (hsymbols : base ≤ 16) (n : ℕ) :
    IsNumeral base 1 (Nat.toDigits base n) n := by
  have hvalue : ∀ v < base, digitValue v.digitChar = v := fun v hv =>
    digitValue_digitChar v (by omega)
  induction n using Nat.strongRecOn with
  | ind n ih =>
    by_cases hsmall : n < base
    · rw [Nat.toDigits_of_lt_base hsmall]
      refine ⟨?_, ?_, Nat.le_refl 1, fun hlong => absurd hlong (Nat.lt_irrefl 1)⟩
      · simpa [hvalue n hsmall] using hsmall
      · simp [numberOf, hvalue n hsmall]
    · have hle : base ≤ n := Nat.not_lt.mp hsmall
      have hlast : n % base < base := Nat.mod_lt n (by omega)
      have hfront := ih (n / base) (Nat.div_lt_self (by omega) hbase)
      refine ⟨?_, ?_, Nat.length_toDigits_pos, fun _ => head?_toDigits hbase (by omega)⟩
      · intro c hc
        rw [Nat.toDigits_of_base_le hbase hle] at hc
        rcases List.mem_append.mp hc with hc | hc
        · exact hfront.digits c hc
        · rwa [List.mem_singleton.mp hc, hvalue _ hlast]
      · rw [Nat.toDigits_of_base_le hbase hle, numberOf_concat, hfront.number, hvalue _ hlast]
        exact Nat.div_add_mod n base

/-- **Zeros in front make a numeral as wide as is wanted.** -/
theorem IsNumeral.pad {base width : ℕ} (hbase : 0 < base) (hwidth : 0 < width) {cs : List Char}
    {n : ℕ} (h : IsNumeral base 1 cs n) :
    IsNumeral base width (List.replicate (width - cs.length) '0' ++ cs) n where
  digits c hc := by
    rcases List.mem_append.mp hc with hc | hc
    · rwa [List.eq_of_mem_replicate hc]
    · exact h.digits c hc
  number := by rw [numberOf_zeros_append, h.number]
  wide := by
    rw [List.length_append, List.length_replicate]
    omega
  lead hlong := by
    rw [List.length_append, List.length_replicate] at hlong
    -- What is too long was not padded.
    have hnone : width - cs.length = 0 := by omega
    rw [hnone, List.replicate_zero, List.nil_append]
    exact h.lead (by omega)

/-! ## Integers -/

theorem isIntegerNumeral_integerNumeral (i : ℤ) : IsIntegerNumeral (integerNumeral i) i := by
  refine ⟨Decimal.digits i.natAbs, ?_, isNumeral_toDigits (by decide) (by decide) _⟩
  rw [integerNumeral, String.toList_append, String.toList_ofList]
  split <;> rfl

/-- A numeral without a sign does not begin like one with a sign. -/
theorem IsNumeral.ne_minus {width : ℕ} {cs : List Char} {n : ℕ} (h : IsNumeral 10 width cs n)
    (rest : List Char) : cs ≠ '-' :: rest := by
  rintro rfl
  exact absurd (h.digits '-' List.mem_cons_self) (by decide)

/-- **No text is the numeral of two integers.** -/
theorem IsIntegerNumeral.eq {text : String} {i j : ℤ} (hi : IsIntegerNumeral text i)
    (hj : IsIntegerNumeral text j) : i = j := by
  obtain ⟨as, hleft, has⟩ := hi
  obtain ⟨bs, hright, hbs⟩ := hj
  rw [hleft] at hright
  have hsame : as = bs → i.natAbs = j.natAbs := by
    rintro rfl
    exact has.number.symm.trans hbs.number
  split at hright <;> split at hright
  · have habs := hsame (List.cons.inj hright).2
    omega
  · exact absurd hright.symm (hbs.ne_minus as)
  · exact absurd hright (has.ne_minus bs)
  · have habs := hsame hright
    omega

end GuardedUi
