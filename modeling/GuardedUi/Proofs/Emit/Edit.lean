import GuardedUi.Proofs.Emit.Relevance
import GuardedUi.Proofs.Emit.Source
import Mathlib.Logic.Relation

/-!
# `Proofs/Emit/Edit` — changes of a model that documents do not show

A model can be changed in many ways that must not show: the entries of a bag are put into another
order, something is said under a name that nobody reads, or under a name that is read but not as a
number or text that is wanted there, an event is bound to nothing, a style without an id comes or
goes, and so do versions and themes. `Edit` has one case for each of these, at one place of the
model. Leaving something out is an edit, and two models are `Equivalent` if edits and reversed edits
lead from one to the other, so adding and replacing are covered too.

> **Equivalent models have the same documents** (`emit_eq_of_equivalent`).

Every edit leaves the model alike (`Widget.Edit.alike`, `StyleSheet.Edit.alike`), one case after the
other; the rest is an induction on the edits in between.
-/

set_option autoImplicit false

namespace GuardedUi

/-! ## Edits -/

/-- The bag without the entry of a name. -/
def Bag.without {α : Type} (bag : Bag α) (name : String) : Bag α :=
  bag.filterMap fun n value => if n = name then none else some value

theorem Bag.get?_without {α : Type} (bag : Bag α) (name other : String) :
    (bag.without name).get? other = if other = name then none else bag.get? other := by
  unfold Bag.without
  rw [get?_filterMap]
  split
  · cases bag.get? other <;> rfl
  · cases bag.get? other <;> rfl

/-- A change of one widget of a tree that documents do not show. -/
inductive Widget.Edit : Widget → Widget → Prop where
  | reorderEvents (w : Widget) (events : Bag Binding)
      (h : w.events.entries.Perm events.entries) : Edit w { w with events }
  | reorderProperties (w : Widget) (properties : Bag Property)
      (h : w.properties.entries.Perm properties.entries) : Edit w { w with properties }
  /-- An event that cannot be wired is left out. -/
  | foreignEvent (w : Widget) (name : String) (h : ∀ event ∈ Event.table, event.property ≠ name) :
    Edit w { w with events := w.events.without name }
  /-- An event that is bound to nothing is left out. -/
  | unboundEvent (w : Widget) (name : String) (h : w.events.get? name = some .none) :
    Edit w { w with events := w.events.without name }
  /-- A property that is not read of widgets of the kind is left out. -/
  | unreadProperty (w : Widget) (name : String)
      (hnumber : name ∉ (WidgetKind.ofType w.type).numberNames)
      (htext : name ∉ (WidgetKind.ofType w.type).textNames) :
    Edit w { w with properties := w.properties.without name }
  /-- A property that should be a number and is none is left out. -/
  | mistypedNumber (w : Widget) (name : String)
      (hread : name ∈ (WidgetKind.ofType w.type).numberNames) (h : w.number? name = none) :
    Edit w { w with properties := w.properties.without name }
  /-- A property that should be a text and is none is left out. -/
  | mistypedText (w : Widget) (name : String)
      (hread : name ∈ (WidgetKind.ofType w.type).textNames) (h : w.text? name = none) :
    Edit w { w with properties := w.properties.without name }
  /-- A widget further down is changed. -/
  | child (w : Widget) (before after : List Widget) {c c' : Widget} (h : Edit c c') :
    Edit { w with children := before ++ c :: after } { w with children := before ++ c' :: after }

inductive Layout.Edit : Layout → Layout → Prop where
  | widget (layout : Layout) {root root' : Widget} (h : Widget.Edit root root') :
    Edit { layout with root := some root } { layout with root := some root' }
  | version (layout : Layout) (version : Nat) : Edit layout { layout with version }

inductive SharedStyle.Edit : SharedStyle → SharedStyle → Prop where
  | reorder (style : SharedStyle) (properties : Bag Property)
      (h : style.properties.entries.Perm properties.entries) : Edit style { style with properties }
  /-- A property that the graphics library does not understand is left out. -/
  | unread (style : SharedStyle) (name : String) (h : name ∉ StyleStatement.properties) :
    Edit style { style with properties := style.properties.without name }
  | mistyped (style : SharedStyle) (name : String) (hread : name ∈ StyleStatement.properties)
      (h : style.number? name = none) :
    Edit style { style with properties := style.properties.without name }

inductive StyleSheet.Edit : StyleSheet → StyleSheet → Prop where
  | style (sheet : StyleSheet) (before after : List SharedStyle) {s s' : SharedStyle}
      (h : SharedStyle.Edit s s') :
    Edit { sheet with shared := before ++ s :: after } { sheet with shared := before ++ s' :: after }
  /-- A style without an id is left out. -/
  | unnamed (sheet : StyleSheet) (before after : List SharedStyle) (s : SharedStyle)
      (h : s.id = "") :
    Edit { sheet with shared := before ++ s :: after } { sheet with shared := before ++ after }
  | version (sheet : StyleSheet) (version : Nat) : Edit sheet { sheet with version }
  | theme (sheet : StyleSheet) (theme : Option Json.Value) : Edit sheet { sheet with theme }

/-- Edits and reversed edits lead from one layout to the other. -/
def Layout.Equivalent : Layout → Layout → Prop :=
  Relation.EqvGen Layout.Edit

def StyleSheet.Equivalent : StyleSheet → StyleSheet → Prop :=
  Relation.EqvGen StyleSheet.Edit

/-! ## Edits leave models alike -/

namespace Widget

theorem text_not_mem_numberNames (kind : WidgetKind) :
    ∀ name ∈ kind.textNames, name ∉ kind.numberNames := by
  cases kind <;> decide

theorem alike_of_events (w : Widget) {events : Bag Binding} (h : SameEvents w.events events) :
    Alike w { w with events } := by
  cases w with
  | mk type id children styleId _ properties =>
    exact .intro h ⟨fun _ _ => rfl, fun _ _ => rfl⟩ (AlikeAll.refl children)

theorem alike_of_properties (w : Widget) {properties : Bag Property}
    (h : SameProperties (WidgetKind.ofType w.type) w.properties properties) :
    Alike w { w with properties } := by
  cases w with
  | mk type id children styleId events _ =>
    exact .intro (fun _ _ => rfl) h (AlikeAll.refl children)

/-- Leaving out a property of which nothing is read. -/
theorem alike_of_without (w : Widget) {name : String}
    (hnumber : name ∈ (WidgetKind.ofType w.type).numberNames → w.number? name = none)
    (htext : name ∈ (WidgetKind.ofType w.type).textNames → w.text? name = none) :
    Alike w { w with properties := w.properties.without name } := by
  refine w.alike_of_properties ⟨fun other hother => ?_, fun other hother => ?_⟩
  · rw [Bag.get?_without]
    split
    · rename_i heq
      subst heq
      exact hnumber hother
    · rfl
  · rw [Bag.get?_without]
    split
    · rename_i heq
      subst heq
      exact htext hother
    · rfl

theorem Edit.alike {w w' : Widget} (h : Edit w w') : Alike w w' := by
  induction h with
  | reorderEvents w events h =>
    exact w.alike_of_events fun event _ => by rw [Bag.get?_of_perm h]
  | reorderProperties w properties h =>
    refine w.alike_of_properties ⟨fun name _ => ?_, fun name _ => ?_⟩
    · rw [Bag.get?_of_perm h]
    · rw [Bag.get?_of_perm h]
  | foreignEvent w name h =>
    refine w.alike_of_events fun event hevent => ?_
    rw [Bag.get?_without, if_neg (h event hevent)]
  | unboundEvent w name h =>
    refine w.alike_of_events fun event _ => ?_
    rw [Bag.get?_without]
    split
    · rename_i heq
      rw [heq, h]
      rfl
    · rfl
  | unreadProperty w name hnumber htext =>
    exact w.alike_of_without (fun hread => absurd hread hnumber) fun hread => absurd hread htext
  | mistypedNumber w name hread h =>
    exact w.alike_of_without (fun _ => h) fun htext =>
      absurd hread (text_not_mem_numberNames _ name htext)
  | mistypedText w name hread h =>
    exact w.alike_of_without (fun hnumber =>
      absurd hnumber (text_not_mem_numberNames _ name hread)) fun _ => h
  | child w before after _ ih =>
    refine .intro (fun _ _ => rfl) ⟨fun _ _ => rfl, fun _ _ => rfl⟩ ?_
    exact (AlikeAll.refl before).append (.cons ih (AlikeAll.refl after))

end Widget

theorem Layout.Edit.alike {layout layout' : Layout} (h : Edit layout layout') :
    layout.Alike layout' := by
  cases h with
  | widget _ h => exact .some h.alike
  | version _ _ => exact Layout.Alike.refl layout

theorem SharedStyle.Edit.alike {style style' : SharedStyle} (h : Edit style style') :
    style.Alike style' := by
  cases h with
  | reorder properties h =>
    refine ⟨rfl, fun name _ => ?_⟩
    unfold SharedStyle.number?
    rw [Bag.get?_of_perm h]
  | unread name h =>
    refine ⟨rfl, fun other hother => ?_⟩
    unfold SharedStyle.number?
    have hne : other ≠ name := fun heq => h (heq ▸ hother)
    rw [Bag.get?_without, if_neg hne]
  | mistyped name _ h =>
    refine ⟨rfl, fun other _ => ?_⟩
    unfold SharedStyle.number?
    rw [Bag.get?_without]
    split
    · rename_i heq
      subst heq
      exact h
    · rfl

namespace StyleSheet

/-- Styles that are alike are either both named or both not. -/
theorem alike_of_shared {sheet sheet' : StyleSheet}
    (h : List.Forall₂ SharedStyle.Alike sheet.shared sheet'.shared) : sheet.Alike sheet' := by
  unfold StyleSheet.Alike named
  generalize sheet.shared = shared at h ⊢
  generalize sheet'.shared = shared' at h ⊢
  induction h with
  | nil => exact .nil
  | @cons s s' rest rest' hs _ ih =>
    rw [List.filter_cons, List.filter_cons, hs.id]
    split
    · exact .cons hs ih
    · exact ih

theorem Edit.alike {sheet sheet' : StyleSheet} (h : Edit sheet sheet') : sheet.Alike sheet' := by
  cases h with
  | style sheet before after h =>
    have hrefl : ∀ styles : List SharedStyle, List.Forall₂ SharedStyle.Alike styles styles :=
      fun styles => List.forall₂_same.mpr fun _ _ => ⟨rfl, fun _ _ => rfl⟩
    exact alike_of_shared (List.rel_append (hrefl before) (.cons h.alike (hrefl after)))
  | unnamed sheet before after s h =>
    -- The same styles are named before and after.
    have hnamed : named { sheet with shared := before ++ s :: after } =
        named { sheet with shared := before ++ after } := by
      simp [named, h]
    unfold StyleSheet.Alike
    rw [hnamed]
    exact List.forall₂_same.mpr fun _ _ => ⟨rfl, fun _ _ => rfl⟩
  | version _ => exact Alike.refl sheet
  | theme _ => exact Alike.refl sheet

end StyleSheet

/-! ## Documents of equivalent models -/

/-- What no edit changes is the same at both ends of a chain of edits. -/
theorem eq_of_eqvGen {α β : Type} {edit : α → α → Prop} {f : α → β}
    (hedit : ∀ a b, edit a b → f a = f b) {a b : α} (h : Relation.EqvGen edit a b) : f a = f b := by
  induction h with
  | rel a b hab => exact hedit a b hab
  | refl a => rfl
  | symm a b _ ih => exact ih.symm
  | trans a b c _ _ ih ih' => exact ih.trans ih'

/-- **Equivalent models have the same documents.** What documents do not show can be different, and
there is one emission of both models: header, source, identifiers and stubs. -/
theorem emit_eq_of_equivalent {layout layout' : Layout} {sheet sheet' : StyleSheet}
    (hlayout : layout.Equivalent layout') (hsheet : sheet.Equivalent sheet')
    (options : EmitOptions) :
    ∃ emission, Emission.emit options layout sheet = .ok emission ∧
      Emission.emit options layout' sheet' = .ok emission := by
  obtain ⟨emission, hemit, -⟩ := Emission.exists_emit options layout sheet
  have hlayouts : Emission.emit options layout sheet = Emission.emit options layout' sheet :=
    eq_of_eqvGen (fun _ _ h => Emission.emit_congr options h.alike (.refl sheet)) hlayout
  have hsheets : Emission.emit options layout' sheet = Emission.emit options layout' sheet' :=
    eq_of_eqvGen (fun _ _ h => Emission.emit_congr options (.refl layout') h.alike) hsheet
  exact ⟨emission, hemit, hsheets ▸ hlayouts ▸ hemit⟩

/-- A label with the same text as another one, a note that nobody reads and a width that is no
number, in a layout of another version. -/
def notedLabel : Layout where
  version := 2
  root := some ((((Widget.new "label").withProperty "width" (.text "wide")).withProperty
    "text" (.text "Ready.")).withProperty "note" (.text "later"))

theorem emit_eq_of_notedLabel :
    notedLabel.Equivalent (labelLayout "Ready.") ∧
      StyleSheet.Equivalent (.new [.new "", .new "card"]) (.new [.new "card"]) ∧
      ∃ emission, Emission.emit .standard notedLabel (.new [.new "", .new "card"]) = .ok emission ∧
        Emission.emit .standard (labelLayout "Ready.") (.new [.new "card"]) = .ok emission := by
  have hlayout : notedLabel.Equivalent (labelLayout "Ready.") := by
    refine .trans _ _ _ (.rel _ _ (.widget notedLabel (.unreadProperty _ "note" ?_ ?_))) ?_
    · decide
    · decide
    refine .trans _ _ _ (.rel _ _ (.widget notedLabel (.mistypedNumber _ "width" ?_ ?_))) ?_
    · decide
    · decide
    exact .rel _ _ (.version _ 1)
  have hsheet : StyleSheet.Equivalent (.new [.new "", .new "card"]) (.new [.new "card"]) :=
    .rel _ _ (.unnamed (.new []) [] [.new "card"] (.new "") rfl)
  exact ⟨hlayout, hsheet, emit_eq_of_equivalent hlayout hsheet .standard⟩

end GuardedUi
