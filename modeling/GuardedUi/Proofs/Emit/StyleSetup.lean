import GuardedUi.Emit.Document
import Mathlib.Data.List.Nodup

/-!
# `Proofs/Emit/StyleSetup` — what a style variable holds after the initializer

A widget is attached to a style by the style's variable, so what it looks like depends on what the
variable holds when the initializer has run. `StyleStatement.exec` is that reading of the setup
statements: initializing a variable clears it, setting a property sets one entry.

> **A variable holds the settings of the last named style that it belongs to** (`run_setup`).

Looking up an id finds the first style with that id. The two are the same style unless another named
style behind it has the same variable, which happens if the ids have the same identifier. Nothing in
the generator rules that out: every named style is set up, in order. `overwritten_style` is a sheet
in which it happens.
-/

set_option autoImplicit false

namespace GuardedUi

/-- What every variable holds: properties with their values as they are written. -/
abbrev StyleMemory := String → Bag String

/-- The properties of a style that are set, with their values as they are written. -/
def SharedStyle.settings (style : SharedStyle) : List (String × String) :=
  StyleStatement.properties.filterMap fun name =>
    (style.number? name).map fun value => (name, Emit.formatValue name value)

namespace StyleStatement

def target : StyleStatement → String
  | .init target => target
  | .set target _ _ => target

def exec (memory : StyleMemory) : StyleStatement → StyleMemory
  | .init target => fun cell => if cell = target then Bag.empty else memory cell
  | .set target property value => fun cell =>
    if cell = target then (memory target).put property (Emit.formatValue property value)
    else memory cell

def run (memory : StyleMemory) (statements : List StyleStatement) : StyleMemory :=
  statements.foldl exec memory

theorem run_append (memory : StyleMemory) (a b : List StyleStatement) :
    run memory (a ++ b) = run (run memory a) b :=
  List.foldl_append

theorem exec_of_ne (memory : StyleMemory) {cell : String} {s : StyleStatement}
    (h : cell ≠ s.target) : exec memory s cell = memory cell := by
  cases s with
  | init target => exact if_neg h
  | set target property value => exact if_neg h

theorem run_of_ne (memory : StyleMemory) {cell : String} {statements : List StyleStatement}
    (h : ∀ s ∈ statements, cell ≠ s.target) : run memory statements cell = memory cell := by
  induction statements generalizing memory with
  | nil => rfl
  | cons s rest ih =>
    have hrest := ih (exec memory s) fun other ho => h other (List.mem_cons_of_mem s ho)
    exact hrest.trans (exec_of_ne memory (h s List.mem_cons_self))

/-! ## One style -/

theorem target_of_mem_ofStyle {style : SharedStyle} {s : StyleStatement} (h : s ∈ ofStyle style) :
    s.target = Name.styleVariable style.id := by
  rcases List.mem_cons.mp h with rfl | h
  · rfl
  · obtain ⟨name, -, heq⟩ := List.mem_filterMap.mp h
    obtain ⟨value, -, rfl⟩ := Option.map_eq_some_iff.mp heq
    rfl

theorem run_sets (style : SharedStyle) (cell : String) (names : List String)
    (memory : StyleMemory) :
    run memory (names.filterMap fun name => (style.number? name).map (.set cell name)) cell =
      (names.filterMap fun name =>
        (style.number? name).map fun value => (name, Emit.formatValue name value)).foldl
          (fun bag entry => bag.put entry.1 entry.2) (memory cell) := by
  induction names generalizing memory with
  | nil => rfl
  | cons name rest ih =>
    -- A property without a number makes no statement.
    cases hvalue : style.number? name with
    | none => simpa [hvalue] using ih memory
    | some value =>
      have hset : exec memory (.set cell name value) cell =
          (memory cell).put name (Emit.formatValue name value) := if_pos rfl
      simp only [List.filterMap_cons, hvalue, Option.map_some, List.foldl_cons, ← hset]
      exact ih _

theorem nodup_settings (style : SharedStyle) : (style.settings.map Prod.fst).Nodup := by
  have hdistinct : properties.Nodup := by decide
  rw [SharedStyle.settings, List.map_filterMap]
  refine hdistinct.filterMap fun a b name ha hb => ?_
  obtain ⟨value, -, rfl⟩ : ∃ value, style.number? a = some value ∧ a = name := by
    simpa [Function.comp_def] using ha
  obtain ⟨value, -, rfl⟩ : ∃ value, style.number? b = some value ∧ b = a := by
    simpa [Function.comp_def] using hb
  rfl

/-- Setting up a style leaves its settings in its variable, whatever was there before. -/
theorem run_ofStyle (memory : StyleMemory) (style : SharedStyle) :
    (run memory (ofStyle style) (Name.styleVariable style.id)).entries = style.settings := by
  have hclear : exec memory (.init (Name.styleVariable style.id)) (Name.styleVariable style.id) =
      Bag.empty := if_pos rfl
  have hsets := run_sets style (Name.styleVariable style.id) properties
    (exec memory (.init (Name.styleVariable style.id)))
  rw [hclear] at hsets
  rw [← Bag.entries_ofList (nodup_settings style)]
  exact congrArg Bag.entries hsets

/-! ## All styles -/

/-- **The last style with a variable decides what the variable holds.** -/
theorem run_setup (memory : StyleMemory) {named before after : List SharedStyle}
    {last : SharedStyle} (h : named = before ++ last :: after)
    (hlast : ∀ other ∈ after, Name.styleVariable other.id ≠ Name.styleVariable last.id) :
    (run memory (named.map ofStyle).flatten (Name.styleVariable last.id)).entries =
      last.settings := by
  rw [h, List.map_append, List.map_cons, List.flatten_append, List.flatten_cons, run_append,
    run_append, run_of_ne, run_ofStyle]
  -- What the styles behind it set up are other variables.
  intro s hs
  obtain ⟨statements, hstatements, hs⟩ := List.mem_flatten.mp hs
  obtain ⟨other, hother, rfl⟩ := List.mem_map.mp hstatements
  rw [target_of_mem_ofStyle hs]
  exact (hlast other hother).symm

end StyleStatement

theorem exists_last_of_styleVariable {cell : String} {named : List SharedStyle}
    (h : ∃ style ∈ named, Name.styleVariable style.id = cell) :
    ∃ before last after, named = before ++ last :: after ∧
      Name.styleVariable last.id = cell ∧
      ∀ later ∈ after, Name.styleVariable later.id ≠ cell := by
  induction named with
  | nil => simp at h
  | cons first rest ih =>
    by_cases hrest : ∃ style ∈ rest, Name.styleVariable style.id = cell
    · obtain ⟨before, last, after, rfl, hvariable, hlater⟩ := ih hrest
      exact ⟨first :: before, last, after, rfl, hvariable, hlater⟩
    · obtain ⟨style, hm, hvariable⟩ := h
      rcases List.mem_cons.mp hm with rfl | hm
      · exact ⟨[], style, rest, rfl, hvariable, fun later hl heq => hrest ⟨later, hl, heq⟩⟩
      · exact absurd ⟨style, hm, hvariable⟩ hrest

theorem styleVariable_eq_iff {a b : String} :
    Name.styleVariable a = Name.styleVariable b ↔ Name.identifier a = Name.identifier b :=
  String.append_right_inj _

/-- **What the variable of a style holds.** It is what the last named style with that variable
says, and so what the style itself says unless a later one has an id with the same identifier. -/
theorem contents_of_get? {sheet : StyleSheet} {id : String} {style : SharedStyle}
    (h : sheet.get? id = some style) (options : EmitOptions) (layout : Layout)
    (memory : StyleMemory) :
    (∃ before last after, sheet.named = before ++ last :: after ∧
      Name.styleVariable last.id = Name.styleVariable id ∧
      (∀ later ∈ after, Name.styleVariable later.id ≠ Name.styleVariable id) ∧
      (StyleStatement.run memory (Emission.sections options layout sheet).setup.flatten
        (Name.styleVariable id)).entries = last.settings) ∧
    (∀ before after, sheet.named = before ++ style :: after →
      (∀ later ∈ after, Name.identifier later.id ≠ Name.identifier id) →
      (StyleStatement.run memory (Emission.sections options layout sheet).setup.flatten
        (Name.styleVariable id)).entries = style.settings) := by
  obtain rfl : style.id = id := by simpa using List.find?_some h
  have hmem : style ∈ sheet.named := List.mem_of_find?_eq_some h
  constructor
  · obtain ⟨before, last, after, hnamed, hvariable, hlater⟩ :=
      exists_last_of_styleVariable ⟨style, hmem, rfl⟩
    refine ⟨before, last, after, hnamed, hvariable, hlater, ?_⟩
    rw [← hvariable] at hlater ⊢
    exact StyleStatement.run_setup memory hnamed hlater
  · intro before after hnamed hlater
    refine StyleStatement.run_setup memory hnamed fun other ho heq => ?_
    exact hlater other ho (styleVariable_eq_iff.mp heq)

def roundedStyle (id : String) (radius : Int) : SharedStyle :=
  (SharedStyle.new id).withProperty "radius" (.number (.ofInt radius))

/-- Two styles whose ids differ in the case of a letter. -/
def cardSheet : StyleSheet :=
  .new [roundedStyle "Card" 4, roundedStyle "card" 8]

theorem contents_of_later_card :
    cardSheet.get? "card" = some (roundedStyle "card" 8) ∧
      (StyleStatement.run (fun _ => Bag.empty)
        (Emission.sections .standard .empty cardSheet).setup.flatten
        (Name.styleVariable "card")).entries = [("radius", "8")] := by
  have hget : cardSheet.get? "card" = some (roundedStyle "card" 8) := rfl
  have hlast := (contents_of_get? hget .standard .empty fun _ => Bag.empty).2
    [roundedStyle "Card" 4] [] rfl (by simp)
  refine ⟨hget, hlast.trans ?_⟩
  decide +kernel

/-- The style that an id finds is not the one that its variable holds in the end. -/
theorem overwritten_style :
    cardSheet.get? "Card" = some (roundedStyle "Card" 4) ∧
      (StyleStatement.run (fun _ => Bag.empty)
        (Emission.sections .standard .empty cardSheet).setup.flatten
        (Name.styleVariable "Card")).entries = [("radius", "8")] ∧
      (StyleStatement.run (fun _ => Bag.empty)
        (Emission.sections .standard .empty cardSheet).setup.flatten
        (Name.styleVariable "Card")).entries ≠ (roundedStyle "Card" 4).settings := by
  refine ⟨rfl, ?_, ?_⟩
  · decide +kernel
  · decide +kernel

end GuardedUi
