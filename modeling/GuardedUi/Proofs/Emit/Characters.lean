import GuardedUi.Emit.Statement
import GuardedUi.Proofs.Name.Words

/-!
# `Proofs/Emit/Characters` — statements without slashes

A marker begins and ends with a slash, so a line without slashes has no part in any marker. Names
have none, and this file says the same of numerals and of statements:

> **A line of the initializer has no slash outside a text that a widget shows**
> (`StyleStatement.slashFree_line`, `Statement.line_cases`).

Statements can be made of any texts. Those that are emitted are `Tame`: their variables and handlers
are words, and their functions are among those of the library.
-/

set_option autoImplicit false

namespace GuardedUi

open Guard

/-- The text has no slash. -/
def SlashFree (text : String) : Prop :=
  '/' ∉ text.toList

instance (text : String) : Decidable (SlashFree text) :=
  inferInstanceAs (Decidable ('/' ∉ text.toList))

@[simp] theorem slashFree_append {a b : String} : SlashFree (a ++ b) ↔ SlashFree a ∧ SlashFree b := by
  simp [SlashFree, String.toList_append, not_or]

theorem IsWord.slashFree {text : String} (h : IsWord text) : SlashFree text :=
  h.slash_not_mem

/-! ## Numerals -/

/-- The character can stand in a numeral, or in what is written for a value without digits. -/
def isNumeralChar (c : Char) : Bool :=
  c.isDigit || ['-', '.', 'N', 'a', 'i', 'n', 'f'].contains c

/-- The text has no other characters than numerals have. -/
def Numeric (text : List Char) : Prop :=
  ∀ c ∈ text, isNumeralChar c = true

instance (text : List Char) : Decidable (Numeric text) :=
  decidable_of_iff (text.all isNumeralChar = true) List.all_eq_true

theorem Numeric.not_mem {text : List Char} (h : Numeric text) {c : Char}
    (hc : isNumeralChar c = false) : c ∉ text := fun hm => by
  rw [h c hm] at hc
  exact absurd hc (by decide)

theorem Numeric.append {a b : List Char} (ha : Numeric a) (hb : Numeric b) : Numeric (a ++ b) :=
  fun c hc => (List.mem_append.mp hc).elim (ha c) (hb c)

theorem numeric_digits (n : Nat) : Numeric (Decimal.digits n) := fun c hc => by
  have hdigit : c.isDigit = true := Nat.isDigit_of_mem_toDigits (by decide) (by decide) hc
  rw [isNumeralChar, hdigit, Bool.true_or]

theorem numeric_replicate_zero (n : Nat) : Numeric (List.replicate n '0') := fun c hc => by
  rw [List.eq_of_mem_replicate hc]
  decide

theorem numeric_positional (form : NumeralForm) {digits : List Char} (h : Numeric digits)
    (exponent : Int) : Numeric (form.positional digits exponent) := by
  have hpoint : ∀ b : Bool, Numeric (if b then ['.', '0'] else []) := by decide
  have hlead : Numeric ['0', '.'] := by decide
  have hmark : Numeric ['.'] := by decide
  rw [NumeralForm.positional]
  split
  · exact hlead.append ((numeric_replicate_zero _).append h)
  · simp only
    split
    · exact (h.append (numeric_replicate_zero _)).append (hpoint _)
    · -- The point stands between the digits, so each part of them is looked at on its own.
      have htake : Numeric (digits.take (exponent.toNat + 1)) :=
        fun c hc => h c (List.mem_of_mem_take hc)
      have hdrop : Numeric (digits.drop (exponent.toNat + 1)) :=
        fun c hc => h c (List.mem_of_mem_drop hc)
      exact htake.append (hmark.append hdrop)

theorem numeric_write_plain (d : Double) : Numeric (NumeralForm.plain.write d).toList := by
  have hsign : ∀ b : Bool, Numeric (if b then "-" else "").toList := by decide
  have hsigned : ∀ (b : Bool) (digits : List Char) (exponent : Int), Numeric digits →
      Numeric ((if b then "-" else "") ++
        String.ofList (NumeralForm.plain.magnitude digits exponent)).toList := by
    intro b digits exponent h
    rw [String.toList_append, String.toList_ofList]
    exact (hsign b).append (numeric_positional _ h exponent)
  simp only [NumeralForm.write]
  split
  · decide
  · split
    · split <;> decide
    · split
      · exact hsigned _ ['0'] 0 (by decide)
      · exact hsigned _ _ _ (numeric_digits _)

theorem numeric_integerNumeral (i : Int) : Numeric (integerNumeral i).toList := by
  rw [integerNumeral, String.toList_append, String.toList_ofList]
  refine Numeric.append ?_ (numeric_digits _)
  split <;> decide

theorem numeric_formatNumber (d : Double) : Numeric (Emit.formatNumber d).toList := by
  rw [Emit.formatNumber]
  split
  · exact numeric_integerNumeral _
  · exact numeric_write_plain d

theorem slashFree_formatNumber (d : Double) : SlashFree (Emit.formatNumber d) :=
  (numeric_formatNumber d).not_mem (by decide)

/-- What is no digit in any base does not turn up among digits. -/
theorem not_mem_toDigitsCore {c : Char} (hc : ∀ n, Nat.digitChar n ≠ c) (base fuel n : Nat)
    {digits : List Char} (h : c ∉ digits) : c ∉ Nat.toDigitsCore base fuel n digits := by
  induction fuel generalizing n digits with
  | zero => exact h
  | succ fuel ih =>
    have hcons : c ∉ Nat.digitChar (n % base) :: digits :=
      List.not_mem_cons_of_ne_of_not_mem (hc _).symm h
    rw [Nat.toDigitsCore]
    split
    · exact hcons
    · exact ih (n / base) hcons

theorem not_mem_hexSix {c : Char} (hc : ∀ n, Nat.digitChar n ≠ c) (n : Nat) :
    c ∉ (Emit.hexSix n).toList := by
  rw [Emit.hexSix, String.toList_ofList]
  intro hm
  rcases List.mem_append.mp hm with hm | hm
  · rw [List.eq_of_mem_replicate hm] at hc
    exact hc 0 rfl
  · exact not_mem_toDigitsCore hc _ _ _ (by simp) hm

theorem slashFree_formatColor (d : Double) : SlashFree (Emit.formatColor d) := by
  have hhex : SlashFree (Emit.hexSix (d.clampTo Emit.greatestColor)) :=
    not_mem_hexSix (fun n => Nat.digitChar_ne '/' (by decide)) _
  exact slashFree_append.mpr ⟨slashFree_append.mpr ⟨by decide, hhex⟩, by decide⟩

theorem slashFree_formatValue (name : String) (d : Double) :
    SlashFree (Emit.formatValue name d) := by
  rw [Emit.formatValue]
  split
  · exact slashFree_formatColor d
  · exact slashFree_formatNumber d

/-! ## Calls -/

theorem slashFree_commaSeparated : ∀ {arguments : List String},
    (∀ a ∈ arguments, SlashFree a) → SlashFree (commaSeparated arguments)
  | [], _ => by decide
  | [a], h => h a List.mem_cons_self
  | a :: b :: rest, h => by
    have hrest := slashFree_commaSeparated fun x hx => h x (List.mem_cons_of_mem a hx)
    rw [commaSeparated]
    · exact slashFree_append.mpr
        ⟨slashFree_append.mpr ⟨h a List.mem_cons_self, by decide⟩, hrest⟩
    · simp

theorem slashFree_callLine {function : String} {arguments : List String}
    (hf : SlashFree function) (ha : ∀ a ∈ arguments, SlashFree a) :
    SlashFree (callLine function arguments) := by
  rw [callLine]
  simp only [slashFree_append, hf, slashFree_commaSeparated ha, and_true]
  decide

/-! ## Statements -/

theorem StyleStatement.slashFree_line {style : SharedStyle} :
    ∀ s ∈ StyleStatement.ofStyle style, SlashFree s.line := by
  have htarget : SlashFree ("&" ++ Name.styleVariable style.id) :=
    slashFree_append.mpr ⟨by decide, (Name.isWord_styleVariable style.id).slashFree⟩
  have hproperties : ∀ name ∈ StyleStatement.properties, SlashFree name := by decide
  intro s hs
  rcases List.mem_cons.mp hs with rfl | hs
  · exact slashFree_callLine (by decide) (by simpa using htarget)
  · obtain ⟨name, hname, heq⟩ := List.mem_filterMap.mp hs
    obtain ⟨value, -, rfl⟩ := Option.map_eq_some_iff.mp heq
    refine slashFree_callLine (slashFree_append.mpr ⟨by decide, hproperties name hname⟩) ?_
    simp [htarget, slashFree_formatValue]

namespace Setter

/-- The function of the library that is called. -/
def function : Setter → String
  | .position _ _ => "lv_obj_set_pos"
  | .size _ _ => "lv_obj_set_size"
  | .width _ => "lv_obj_set_width"
  | .height _ => "lv_obj_set_height"
  | .text function _ => function
  | .range family _ _ => family ++ "_set_range"
  | .value family _ _ => family ++ "_set_value"
  | .color property _ => "lv_obj_set_style_" ++ property

/-- The functions of the library that set something on a widget. -/
def functions : List String :=
  ["lv_obj_set_pos", "lv_obj_set_size", "lv_obj_set_width", "lv_obj_set_height",
    "lv_label_set_text", "lv_checkbox_set_text", "lv_textarea_set_text",
    "lv_slider_set_range", "lv_bar_set_range", "lv_arc_set_range",
    "lv_slider_set_value", "lv_bar_set_value", "lv_arc_set_value",
    "lv_obj_set_style_bg_color", "lv_obj_set_style_border_color", "lv_obj_set_style_text_color"]

theorem function_mem_positionOf {w : Widget} : ∀ s ∈ positionOf w, s.function ∈ functions := by
  rw [positionOf]
  split
  · simp
  · exact List.forall_mem_singleton.mpr (show "lv_obj_set_pos" ∈ functions by decide)

theorem function_mem_sizeOf {w : Widget} : ∀ s ∈ sizeOf w, s.function ∈ functions := by
  rw [sizeOf]
  split
  · exact List.forall_mem_singleton.mpr (show "lv_obj_set_size" ∈ functions by decide)
  · exact List.forall_mem_singleton.mpr (show "lv_obj_set_width" ∈ functions by decide)
  · exact List.forall_mem_singleton.mpr (show "lv_obj_set_height" ∈ functions by decide)
  · simp

theorem function_mem_textOf {w : Widget} {kind : WidgetKind} :
    ∀ s ∈ textOf w kind, s.function ∈ functions := by
  have hsetter : ∀ name, kind.textSetter? = some name → name ∈ functions := by
    cases kind <;> simp [WidgetKind.textSetter?] <;> decide
  rw [textOf]
  split
  · exact List.forall_mem_singleton.mpr (hsetter _ ‹_›)
  · simp

theorem function_mem_valueOf {w : Widget} {kind : WidgetKind} :
    ∀ s ∈ valueOf w kind, s.function ∈ functions := by
  have hfamily : ∀ family, kind.valueFamily? = some family →
      family ++ "_set_range" ∈ functions ∧ family ++ "_set_value" ∈ functions := by
    cases kind <;> simp [WidgetKind.valueFamily?] <;> decide
  rw [valueOf]
  split
  · simp
  · rename_i family hk
    obtain ⟨hrange, hvalue⟩ := hfamily family hk
    intro s hs
    rcases List.mem_append.mp hs with hs | hs
    · split at hs
      · obtain rfl := List.mem_singleton.mp hs
        exact hrange
      · simp at hs
    · split at hs
      · obtain rfl := List.mem_singleton.mp hs
        exact hvalue
      · simp at hs

theorem function_mem_colorsOf {w : Widget} : ∀ s ∈ colorsOf w, s.function ∈ functions := by
  have hnames : ∀ name ∈ colors, "lv_obj_set_style_" ++ name ∈ functions := by decide
  intro s hs
  obtain ⟨name, hname, heq⟩ := List.mem_filterMap.mp hs
  obtain ⟨value, -, rfl⟩ := Option.map_eq_some_iff.mp heq
  exact hnames name hname

/-- What is set on a widget is set by functions of the library. -/
theorem function_mem_ofWidget {w : Widget} {kind : WidgetKind} :
    ∀ s ∈ ofWidget w kind, s.function ∈ functions := by
  intro s hs
  simp only [ofWidget, List.mem_append] at hs
  rcases hs with (((hs | hs) | hs) | hs) | hs
  · exact function_mem_positionOf s hs
  · exact function_mem_sizeOf s hs
  · exact function_mem_textOf s hs
  · exact function_mem_valueOf s hs
  · exact function_mem_colorsOf s hs

/-- The functions of the setter are some of the library. -/
def Tame : Setter → Prop
  | .text function _ => SlashFree function
  | .range family _ _ => SlashFree family
  | .value family _ _ => SlashFree family
  | .color property _ => SlashFree property
  | _ => True

theorem tame_of_function_mem : ∀ {s : Setter}, s.function ∈ functions → s.Tame := by
  have hslash : ∀ name ∈ functions, SlashFree name := by decide
  intro s hs
  cases s with
  | text name content => exact hslash name hs
  | range family least greatest => exact (slashFree_append.mp (hslash _ hs)).1
  | value family number animates => exact (slashFree_append.mp (hslash _ hs)).1
  | color property number => exact (slashFree_append.mp (hslash _ hs)).2
  | _ => trivial

theorem tame_of_mem_ofWidget {w : Widget} {kind : WidgetKind} :
    ∀ s ∈ Setter.ofWidget w kind, s.Tame :=
  fun s hs => tame_of_function_mem (function_mem_ofWidget s hs)

/-- The text that the setter shows. -/
def shown? : Setter → Option String
  | .text _ content => some content
  | _ => none

theorem line_cases {target : String} (ht : IsWord target) : ∀ {s : Setter}, s.Tame →
    (s.shown? = none ∧ SlashFree (s.line target)) ∨
      ∃ front content, s.shown? = some content ∧ SlashFree front ∧
        s.line target = front ++ content ++ "\");"
  | .position x y, _ | .size x y, _ =>
    Or.inl ⟨rfl, slashFree_callLine (by decide) (by simp [ht.slashFree, slashFree_formatNumber])⟩
  | .width x, _ | .height x, _ =>
    Or.inl ⟨rfl, slashFree_callLine (by decide) (by simp [ht.slashFree, slashFree_formatNumber])⟩
  | .text function content, hf => by
    refine Or.inr ⟨indentation ++ function ++ "(" ++ target ++ ", \"", content, rfl, ?_, ?_⟩
    · simp only [slashFree_append, ht.slashFree, and_true]
      exact ⟨⟨⟨by decide, hf⟩, by decide⟩, by decide⟩
    · apply String.toList_injective
      simp [Setter.line, callLine, commaSeparated, String.toList_append]
  | .range family least greatest, hf =>
    Or.inl ⟨rfl, slashFree_callLine (slashFree_append.mpr ⟨hf, by decide⟩)
      (by simp [ht.slashFree, slashFree_formatNumber])⟩
  | .value family number animates, hf => by
    have hanimates : ∀ a ∈ (if animates then ["LV_ANIM_OFF"] else []), SlashFree a := by
      cases animates <;> decide
    have hnumber : ∀ a ∈ [target, Emit.formatNumber number], SlashFree a := by
      simp [ht.slashFree, slashFree_formatNumber]
    refine Or.inl ⟨rfl, slashFree_callLine (slashFree_append.mpr ⟨hf, by decide⟩) fun a ha => ?_⟩
    rcases List.mem_append.mp ha with ha | ha
    · exact hnumber a ha
    · exact hanimates a ha
  | .color property number, hf =>
    Or.inl ⟨rfl, slashFree_callLine (slashFree_append.mpr ⟨by decide, hf⟩) (by
      have hzero : SlashFree "0" := by decide
      simp [ht.slashFree, slashFree_formatColor, hzero])⟩

end Setter

namespace Statement

/-- Variables and handlers are words, and functions are some of the library. -/
def Tame : Statement → Prop
  | .create target _ parent => IsWord target ∧ ∀ p ∈ parent, IsWord p
  | .addStyle target style => IsWord target ∧ IsWord style
  | .set target setter => IsWord target ∧ setter.Tame
  | .addEvent target registration =>
    IsWord target ∧ IsWord registration.handler ∧ IsWord registration.code

/-- The text that the statement shows. -/
def shown? : Statement → Option String
  | .set _ setter => setter.shown?
  | _ => none

/-- A line has no slash, or it ends with a text and what closes the call. -/
theorem line_cases : ∀ {s : Statement}, s.Tame →
    (s.shown? = none ∧ SlashFree s.line) ∨
      ∃ front content, s.shown? = some content ∧ SlashFree front ∧
        s.line = front ++ content ++ "\");"
  | .create target kind parent, h => by
    have hparent : SlashFree (parent.getD "NULL") := by
      cases parent with
      | none => decide
      | some p => exact (h.2 p rfl).slashFree
    have hconstructor : SlashFree kind.constructor := by cases kind <;> decide
    refine Or.inl ⟨rfl, ?_⟩
    simp only [line, slashFree_append, h.1.slashFree, hparent, hconstructor, and_true]
    decide
  | .addStyle target style, h => by
    have hzero : SlashFree "0" := by decide
    have hstyle : SlashFree ("&" ++ style) := slashFree_append.mpr ⟨by decide, h.2.slashFree⟩
    exact Or.inl ⟨rfl, slashFree_callLine (by decide) (by simp [h.1.slashFree, hzero, hstyle])⟩
  | .set target setter, h => setter.line_cases h.1 h.2
  | .addEvent target registration, h => by
    have hnull : SlashFree "NULL" := by decide
    exact Or.inl ⟨rfl, slashFree_callLine (by decide)
      (by simp [h.1.slashFree, h.2.1.slashFree, h.2.2.slashFree, hnull])⟩

end Statement

end GuardedUi
