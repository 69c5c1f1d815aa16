import GuardedUi.Proofs.Emit.Characters
import GuardedUi.Proofs.Number.Numeral
import GuardedUi.Proofs.Number.Value

/-!
# `Proofs/Emit/Literal` — numbers keep their value in C code

The arithmetic of doubles and the reading of numerals meet here:

> **An integer that doubles hold exactly is written as its decimal numeral, a color as the
> hexadecimal numeral of what is left of it in 32 bits, and the name of a property decides which of
> the two forms is taken** (`literals_keep_value`).

Different integers have different numerals because a numeral can be read back. The two forms never
coincide, since only a color is written with parentheses, so the form that was taken can be told
from the text.
-/

set_option autoImplicit false

namespace GuardedUi.Emit

/-- The double stands for an integer, of a magnitude below which doubles hold every integer. -/
structure IsExact (d : Double) (i : ℤ) : Prop where
  datum : d.datum = .finite i
  small : |i| < 2 ^ 53

/-- The name of a property that holds a color. -/
def NamesColor (name : String) : Prop :=
  name = "color" ∨ ∃ stem, name = stem ++ "_color"

/-! ## Numbers -/

theorem IsExact.formatNumber_eq {d : Double} {i : ℤ} (h : IsExact d i) :
    formatNumber d = integerNumeral i := by
  obtain ⟨hfinite, hvalue⟩ := Double.datum_eq_finite_iff.mp h.datum
  have hintegral : d.isIntegral = true :=
    Double.isIntegral_iff.mpr ⟨i.natAbs, Double.magnitude_of_value_eq hvalue⟩
  have hsmall : d.wholeMagnitude < exactBound := by
    have hlt := h.small
    rw [Int.abs_eq_natAbs] at hlt
    rw [Double.wholeMagnitude_of_value_eq hvalue]
    exact_mod_cast hlt
  rw [formatNumber, hfinite, hintegral, decide_eq_true hsmall,
    Double.truncate_of_value_eq hvalue]
  rfl

theorem IsExact.isIntegerNumeral {d : Double} {i : ℤ} (h : IsExact d i) :
    IsIntegerNumeral (formatNumber d) i := by
  rw [h.formatNumber_eq]
  exact isIntegerNumeral_integerNumeral i

/-- **Numerals of exact integers are equal exactly if the integers are.** -/
theorem IsExact.formatNumber_inj {d e : Double} {i j : ℤ} (hd : IsExact d i) (he : IsExact e j) :
    formatNumber d = formatNumber e ↔ i = j := by
  constructor
  · intro h
    exact hd.isIntegerNumeral.eq (h ▸ he.isIntegerNumeral)
  · rintro rfl
    rw [hd.formatNumber_eq, he.formatNumber_eq]

/-! ## Colors -/

theorem isNumeral_hexSix (n : ℕ) : IsNumeral 16 6 (hexSix n).toList n := by
  rw [hexSix, String.toList_ofList]
  exact (isNumeral_toDigits (by decide) (by decide) n).pad (by decide) (by decide)

theorem formatColor_ne_formatNumber (d e : Double) : formatColor d ≠ formatNumber e := by
  intro h
  have hopen : '(' ∈ (formatColor d).toList := by
    show '(' ∈ ("lv_color_hex(0x" ++ hexSix (d.clampTo greatestColor) ++ ")").toList
    rw [String.toList_append, String.toList_append]
    exact List.mem_append_left _ (List.mem_append_left _ (by decide))
  rw [h] at hopen
  exact (numeric_formatNumber e).not_mem (by decide) hopen

theorem isColorProperty_iff {name : String} : isColorProperty name = true ↔ NamesColor name := by
  rw [isColorProperty, Bool.or_eq_true, beq_iff_eq, List.isSuffixOf_iff_suffix, NamesColor]
  refine or_congr_right ⟨?_, ?_⟩
  · rintro ⟨stem, hstem⟩
    refine ⟨String.ofList stem, String.toList_inj.mp ?_⟩
    rw [String.toList_append, String.toList_ofList, ← hstem]
    rfl
  · rintro ⟨stem, rfl⟩
    rw [String.toList_append]
    exact List.suffix_append _ _

/-- **The form that is taken can be told from the text.** -/
theorem formatValue_eq_formatColor_iff {name : String} {d : Double} :
    formatValue name d = formatColor d ↔ NamesColor name := by
  rw [formatValue, ← isColorProperty_iff]
  split
  · rename_i h
    exact iff_of_true rfl h
  · rename_i h
    exact iff_of_false (formatColor_ne_formatNumber d d).symm h

theorem formatValue_eq_formatNumber_iff {name : String} {d : Double} :
    formatValue name d = formatNumber d ↔ ¬ NamesColor name := by
  rw [formatValue, ← isColorProperty_iff]
  split
  · rename_i h
    exact iff_of_false (formatColor_ne_formatNumber d d) (not_not_intro h)
  · rename_i h
    exact iff_of_true rfl h

/-! ## Both forms -/

/-- **Numbers keep their value in C code.** -/
theorem literals_keep_value :
    (∀ (d : Double) (i : ℤ), IsExact d i → IsIntegerNumeral (formatNumber d) i) ∧
    (∀ (d e : Double) (i j : ℤ), IsExact d i → IsExact e j →
      (formatNumber d = formatNumber e ↔ i = j)) ∧
    (∀ d : Double, ∃ (hex : String) (n : ℕ), formatColor d = "lv_color_hex(0x" ++ hex ++ ")" ∧
      IsNumeral 16 6 hex.toList n ∧ (n : ℤ) = d.datum.clamped (2 ^ 32 - 1)) ∧
    ∀ (name : String) (d : Double),
      (formatValue name d = formatColor d ↔ NamesColor name) ∧
      (formatValue name d = formatNumber d ↔ ¬ NamesColor name) := by
  refine ⟨fun d i h => h.isIntegerNumeral, fun d e i j hd he => hd.formatNumber_inj he,
    fun d => ?_, fun name d => ⟨formatValue_eq_formatColor_iff, formatValue_eq_formatNumber_iff⟩⟩
  exact ⟨hexSix (d.clampTo greatestColor), d.clampTo greatestColor, rfl, isNumeral_hexSix _,
    d.clampTo_eq greatestColor⟩

/-- Negative zero is zero, and at the other end of the range no digit is lost. -/
theorem literals_keep_value_negative :
    IsExact ⟨0x8000000000000000⟩ 0 ∧ IsExact ⟨0xC33FFFFFFFFFFFFF⟩ (-9007199254740991) ∧
      IsIntegerNumeral (formatNumber ⟨0xC33FFFFFFFFFFFFF⟩) (-9007199254740991) ∧
      formatNumber ⟨0x8000000000000000⟩ ≠ formatNumber ⟨0xC33FFFFFFFFFFFFF⟩ := by
  have hzero : IsExact ⟨0x8000000000000000⟩ 0 :=
    ⟨Double.datum_eq_finite_iff.mpr ⟨by decide, by decide +kernel⟩, by decide⟩
  have hleast : IsExact ⟨0xC33FFFFFFFFFFFFF⟩ (-9007199254740991) :=
    ⟨Double.datum_eq_finite_iff.mpr ⟨by decide, by decide +kernel⟩, by decide⟩
  have hkept := literals_keep_value
  exact ⟨hzero, hleast, hkept.1 _ _ hleast, fun h =>
    absurd ((hkept.2.1 _ _ _ _ hzero hleast).mp h) (by decide)⟩

end GuardedUi.Emit
