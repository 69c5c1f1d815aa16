import GuardedUi.Text.Utf8

/-!
# `Proofs/Text/Utf8` — reading what was written

Documents are written as UTF-8 and read again, by commands that insist on UTF-8 and by commands that
do not. Both find the text that was written (`decode?_encode`, `decodeLossy_encode`).

The limits of the second byte are the only place where not every number will do: they shut out the
numbers of surrogates and those above U+10FFFF, and no character has such a number.
-/

set_option autoImplicit false

namespace GuardedUi.Text.Utf8

/-! ## One character -/

theorem toNat_toUInt8 {n : Nat} (h : n < 256) : n.toUInt8.toNat = n :=
  (UInt8.toNat_ofNat' (n := n)).trans (Nat.mod_eq_of_lt h)

/-- The numbers of characters. -/
theorem toNat_cases (c : Char) : c.toNat < 0xD800 ∨ (0xDFFF < c.toNat ∧ c.toNat < 0x110000) :=
  c.valid

theorem isContinuation_toUInt8 {n : Nat} (h : n < 64) : isContinuation (0x80 + n).toUInt8 = true := by
  rw [isContinuation, toNat_toUInt8 (by omega), Bool.and_eq_true, decide_eq_true_eq,
    decide_eq_true_eq]
  omega

/-- The limits of the second byte, each where it is another one than usual. -/
theorem isSecond_of_limits {lead second : Nat} (hlow : 0x80 ≤ second) (hhigh : second ≤ 0xBF)
    (hoverlong : (lead = 0xE0 → 0xA0 ≤ second) ∧ (lead = 0xF0 → 0x90 ≤ second))
    (htoo : (lead = 0xED → second ≤ 0x9F) ∧ (lead = 0xF4 → second ≤ 0x8F)) :
    isSecond lead second = true := by
  simp only [isSecond, Bool.and_eq_true, decide_eq_true_eq]
  constructor
  · split
    · omega
    · split <;> omega
  · split
    · omega
    · split <;> omega

theorem unit_one {n : Nat} (rest : List UInt8) (h : n < 0x80) :
    unit n.toUInt8 rest = (some (Char.ofNat n), 0) := by
  simp only [unit, toNat_toUInt8 (show n < 256 by omega), if_pos h]

theorem unit_two {n : Nat} (rest : List UInt8) (hlow : 0x80 ≤ n) (hhigh : n < 0x800) :
    unit (0xC0 + n / 64).toUInt8 ((0x80 + n % 64).toUInt8 :: rest) = (some (Char.ofNat n), 1) := by
  have hlead := toNat_toUInt8 (show 0xC0 + n / 64 < 256 by omega)
  have hlast := toNat_toUInt8 (show 0x80 + n % 64 < 256 by omega)
  have hcontinuation := isContinuation_toUInt8 (show n % 64 < 64 by omega)
  have hnumber : (0xC0 + n / 64 - 0xC0) * 64 + (0x80 + n % 64 - 0x80) = n := by omega
  simp only [unit, hlead, hlast, hcontinuation, hnumber, if_true, Bool.and_eq_true,
    decide_eq_true_eq]
  rw [if_neg (by omega), if_pos (by omega)]

theorem unit_three {n : Nat} (rest : List UInt8) (hlow : 0x800 ≤ n) (hhigh : n < 0x10000)
    (hchar : n < 0xD800 ∨ 0xDFFF < n) :
    unit (0xE0 + n / 4096).toUInt8
      ((0x80 + n / 64 % 64).toUInt8 :: (0x80 + n % 64).toUInt8 :: rest) =
        (some (Char.ofNat n), 2) := by
  have hlead := toNat_toUInt8 (show 0xE0 + n / 4096 < 256 by omega)
  have hmiddle := toNat_toUInt8 (show 0x80 + n / 64 % 64 < 256 by omega)
  have hlast := toNat_toUInt8 (show 0x80 + n % 64 < 256 by omega)
  have hsecond : isSecond (0xE0 + n / 4096) (0x80 + n / 64 % 64) = true :=
    isSecond_of_limits (by omega) (by omega) (by omega) (by omega)
  have hcontinuation := isContinuation_toUInt8 (show n % 64 < 64 by omega)
  have hnumber : (0xE0 + n / 4096 - 0xE0) * 4096 + (0x80 + n / 64 % 64 - 0x80) * 64 +
      (0x80 + n % 64 - 0x80) = n := by omega
  simp only [unit, hlead, hmiddle, hlast, hsecond, hcontinuation, hnumber, if_true,
    Bool.and_eq_true, decide_eq_true_eq]
  rw [if_neg (by omega), if_neg (by omega), if_pos (by omega)]

theorem unit_four {n : Nat} (rest : List UInt8) (hlow : 0x10000 ≤ n) (hhigh : n < 0x110000) :
    unit (0xF0 + n / 262144).toUInt8
      ((0x80 + n / 4096 % 64).toUInt8 :: (0x80 + n / 64 % 64).toUInt8 ::
        (0x80 + n % 64).toUInt8 :: rest) = (some (Char.ofNat n), 3) := by
  have hlead := toNat_toUInt8 (show 0xF0 + n / 262144 < 256 by omega)
  have hnext := toNat_toUInt8 (show 0x80 + n / 4096 % 64 < 256 by omega)
  have hmiddle := toNat_toUInt8 (show 0x80 + n / 64 % 64 < 256 by omega)
  have hlast := toNat_toUInt8 (show 0x80 + n % 64 < 256 by omega)
  have hsecond : isSecond (0xF0 + n / 262144) (0x80 + n / 4096 % 64) = true :=
    isSecond_of_limits (by omega) (by omega) (by omega) (by omega)
  have hthird := isContinuation_toUInt8 (show n / 64 % 64 < 64 by omega)
  have hcontinuation := isContinuation_toUInt8 (show n % 64 < 64 by omega)
  have hnumber : (0xF0 + n / 262144 - 0xF0) * 262144 + (0x80 + n / 4096 % 64 - 0x80) * 4096 +
      (0x80 + n / 64 % 64 - 0x80) * 64 + (0x80 + n % 64 - 0x80) = n := by omega
  simp only [unit, hlead, hnext, hmiddle, hlast, hsecond, hthird, hcontinuation, hnumber, if_true,
    Bool.and_eq_true, decide_eq_true_eq]
  rw [if_neg (by omega), if_neg (by omega), if_neg (by omega), if_pos (by omega)]

/-- The bytes of a character are one unit, whatever follows. -/
theorem exists_unit_encodeChar (c : Char) :
    ∃ b tail, encodeChar c = b :: tail ∧
      ∀ rest, unit b (tail ++ rest) = (some c, tail.length) := by
  have hcases := toNat_cases c
  have hc : Char.ofNat c.toNat = c := Char.ofNat_toNat c
  by_cases h₁ : c.toNat < 0x80
  · refine ⟨_, [], by rw [encodeChar, if_pos h₁], fun rest => ?_⟩
    rw [List.nil_append, unit_one rest h₁, hc, List.length_nil]
  by_cases h₂ : c.toNat < 0x800
  · refine ⟨_, [_], by rw [encodeChar, if_neg h₁, if_pos h₂], fun rest => ?_⟩
    rw [List.singleton_append, unit_two rest (by omega) h₂, hc, List.length_singleton]
  by_cases h₃ : c.toNat < 0x10000
  · refine ⟨_, [_, _], by rw [encodeChar, if_neg h₁, if_neg h₂, if_pos h₃], fun rest => ?_⟩
    rw [List.cons_append, List.singleton_append, unit_three rest (by omega) h₃ (by omega), hc]
    rfl
  · refine ⟨_, [_, _, _], by rw [encodeChar, if_neg h₁, if_neg h₂, if_neg h₃], fun rest => ?_⟩
    rw [List.cons_append, List.cons_append, List.singleton_append,
      unit_four rest (by omega) (by omega), hc]
    rfl

/-! ## Texts -/

theorem unitsAfter_append (skipped rest : List UInt8) :
    unitsAfter skipped.length (skipped ++ rest) = unitsAfter 0 rest := by
  induction skipped with
  | nil => rfl
  | cons b tail ih => exact ih

/-- The units of what was written are the characters. -/
theorem units_encode (text : List Char) : units (encode text) = text.map some := by
  induction text with
  | nil => rfl
  | cons c rest ih =>
    obtain ⟨b, tail, hencode, hunit⟩ := exists_unit_encodeChar c
    have hbytes : encode (c :: rest) = b :: (tail ++ encode rest) := by
      rw [encode, List.flatMap_cons, hencode, List.cons_append]
      rfl
    rw [units, hbytes, unitsAfter, hunit, unitsAfter_append, List.map_cons]
    exact congrArg (some c :: ·) ih

theorem decode?_encode (text : List Char) : decode? (encode text) = some text := by
  rw [decode?, units_encode]
  induction text with
  | nil => rfl
  | cons c rest ih => simp [ih]

theorem decodeLossy_encode (text : List Char) : decodeLossy (encode text) = text := by
  rw [decodeLossy, units_encode, List.map_map]
  exact List.map_id text

/-! ## Places

A place in a text is counted in characters, and the bytes before it are those of the characters
before it. So what stands between two places has the same bytes in the text as it has alone. -/

theorem encode_append (a b : List Char) : encode (a ++ b) = encode a ++ encode b :=
  List.flatMap_append

/-- The bytes of a text between two places. -/
def slice (text : List Char) (start stop : Nat) : List UInt8 :=
  ((encode text).take (size (text.take stop))).drop (size (text.take start))

theorem slice_eq (before middle after : List Char) :
    slice (before ++ (middle ++ after)) before.length (before.length + middle.length) =
      encode middle := by
  have hstop : (before ++ (middle ++ after)).take (before.length + middle.length) =
      before ++ middle := by
    rw [← List.append_assoc, ← List.length_append, List.take_left]
  rw [slice, hstop, List.take_left, ← List.append_assoc, encode_append (before ++ middle), size, size,
    List.take_left, encode_append, List.drop_left]

end GuardedUi.Text.Utf8
