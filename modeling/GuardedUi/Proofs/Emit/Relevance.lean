import GuardedUi.Emit.Document
import Mathlib.Data.List.Basic
import Mathlib.Data.List.Forall2

/-!
# `Proofs/Emit/Relevance` — what of a model gets into documents

A widget has open bags of events and properties, and the documents take from them what they know:
the events of the table, and under certain names numbers or texts, depending on the kind. `Alike` says
of two trees that they are the same as far as that goes. All that emission does with a model is read
it in this way, so

> **layouts and sheets that are alike have the same documents** (`Emission.emit_congr`).

There is one lemma for each function that reads a widget or a style; the functions that walk through
trees follow the two mutual relations.
-/

set_option autoImplicit false

namespace GuardedUi

open Name

/-! ## What is read -/

namespace WidgetKind

/-- The properties of which the number is read. -/
def numberNames (kind : WidgetKind) : List String :=
  ["x", "y", "width", "height"] ++
    (if kind.valueFamily?.isSome then ["min", "max", "value"] else []) ++ Setter.colors

/-- The properties of which the text is read. -/
def textNames (kind : WidgetKind) : List String :=
  if kind.textSetter?.isSome then ["text"] else []

end WidgetKind

namespace Widget

/-- Two bags of events bind the events of the table in the same way. -/
def SameEvents (events events' : Bag Binding) : Prop :=
  ∀ event ∈ Event.table,
    (events.get? event.property).getD .none = (events'.get? event.property).getD .none

/-- Two bags of properties have the same numbers and texts where they are read. -/
structure SameProperties (kind : WidgetKind) (properties properties' : Bag Property) : Prop where
  numbers : ∀ name ∈ kind.numberNames,
    (properties.get? name).bind Property.number? = (properties'.get? name).bind Property.number?
  texts : ∀ name ∈ kind.textNames,
    (properties.get? name).bind Property.text? = (properties'.get? name).bind Property.text?

mutual

/-- Two trees are the same as far as documents are concerned. -/
inductive Alike : Widget → Widget → Prop where
  | intro {type : String} {id styleId : Option String} {children children' : List Widget}
      {events events' : Bag Binding} {properties properties' : Bag Property}
      (hevents : SameEvents events events')
      (hproperties : SameProperties (WidgetKind.ofType type) properties properties')
      (hchildren : AlikeAll children children') :
    Alike ⟨type, id, children, styleId, events, properties⟩
      ⟨type, id, children', styleId, events', properties'⟩

inductive AlikeAll : List Widget → List Widget → Prop where
  | nil : AlikeAll [] []
  | cons {w w' : Widget} {rest rest' : List Widget} (hw : Alike w w')
      (hrest : AlikeAll rest rest') : AlikeAll (w :: rest) (w' :: rest')

end

mutual

theorem Alike.refl : ∀ w : Widget, Alike w w
  | ⟨_, _, children, _, _, _⟩ =>
    .intro (fun _ _ => rfl) ⟨fun _ _ => rfl, fun _ _ => rfl⟩ (AlikeAll.refl children)

theorem AlikeAll.refl : ∀ children : List Widget, AlikeAll children children
  | [] => .nil
  | w :: rest => .cons (Alike.refl w) (AlikeAll.refl rest)

end

theorem AlikeAll.append {a a' b b' : List Widget} (ha : AlikeAll a a') (hb : AlikeAll b b') :
    AlikeAll (a ++ b) (a' ++ b') := by
  induction a generalizing a' with
  | nil =>
    cases ha with
    | nil => exact hb
  | cons w rest ih =>
    cases ha with
    | cons hw hrest => exact .cons hw (ih hrest)

end Widget

/-- Two styles are the same as far as documents are concerned. -/
structure SharedStyle.Alike (style style' : SharedStyle) : Prop where
  id : style.id = style'.id
  numbers : ∀ name ∈ StyleStatement.properties, style.number? name = style'.number? name

/-- The styles that can be referred to are alike, one after the other. -/
def StyleSheet.Alike (sheet sheet' : StyleSheet) : Prop :=
  List.Forall₂ SharedStyle.Alike sheet.named sheet'.named

def Layout.Alike (layout layout' : Layout) : Prop :=
  Option.Rel Widget.Alike layout.root layout'.root

theorem Layout.Alike.refl (layout : Layout) : layout.Alike layout := by
  unfold Layout.Alike
  cases layout.root with
  | none => exact .none
  | some root => exact .some (Widget.Alike.refl root)

theorem StyleSheet.Alike.refl (sheet : StyleSheet) : sheet.Alike sheet := by
  unfold StyleSheet.Alike
  exact List.forall₂_same.mpr fun _ _ => ⟨rfl, fun _ _ => rfl⟩

/-! ## Names -/

namespace Name

open Widget

mutual

theorem userNames_congr : ∀ {w w' : Widget}, Alike w w' → userNames w = userNames w'
  | _, _, .intro _ _ hchildren => by
    rw [userNames, userNames, userNamesAll_congr hchildren]

theorem userNamesAll_congr :
    ∀ {children children' : List Widget}, AlikeAll children children' →
      userNamesAll children = userNamesAll children'
  | _, _, .nil => rfl
  | _, _, .cons hw hrest => by
    rw [userNamesAll, userNamesAll, userNames_congr hw, userNamesAll_congr hrest]

end

mutual

theorem ownNames_congr (path : String) :
    ∀ {w w' : Widget}, Alike w w' → ownNames path w = ownNames path w'
  | _, _, .intro _ _ hchildren => by
    rw [ownNames, ownNames, ownNamesAll_congr path 0 hchildren]

theorem ownNamesAll_congr (path : String) (index : Nat) :
    ∀ {children children' : List Widget}, AlikeAll children children' →
      ownNamesAll path index children = ownNamesAll path index children'
  | _, _, .nil => rfl
  | _, _, .cons hw hrest => by
    rw [ownNamesAll, ownNamesAll, ownNames_congr _ hw, ownNamesAll_congr path (index + 1) hrest]

end

mutual

theorem assignAt_congr (path : String) (progress : Progress) :
    ∀ {w w' : Widget}, Alike w w' → assignAt path progress w = assignAt path progress w'
  | _, _, .intro _ _ hchildren => by
    rw [assignAt, assignAt]
    split
    exact assignAll_congr path 0 _ hchildren

theorem assignAll_congr (path : String) (index : Nat) (progress : Progress) :
    ∀ {children children' : List Widget}, AlikeAll children children' →
      assignAll path index progress children = assignAll path index progress children'
  | _, _, .nil => rfl
  | _, _, .cons hw hrest => by
    rw [assignAll, assignAll, assignAt_congr _ progress hw,
      assignAll_congr path (index + 1) _ hrest]

end

/-- Trees that are alike have the same identifiers. -/
theorem assign_congr {root root' : Option Widget} (h : Option.Rel Alike root root') :
    assign root = assign root' := by
  cases h with
  | none => rfl
  | some hroot =>
    rw [assign, assign, userNames_congr hroot, ownNames_congr rootPath hroot,
      assignAt_congr rootPath _ hroot]

end Name

/-! ## Events and setters -/

section Readers

variable {type : String} {id styleId : Option String} {children children' : List Widget}
  {events events' : Bag Binding} {properties properties' : Bag Property}

theorem Registration.ofWidget_congr (h : Widget.SameEvents events events') (identifier : String) :
    ofWidget ⟨type, id, children, styleId, events, properties⟩ identifier =
      ofWidget ⟨type, id, children', styleId, events', properties'⟩ identifier := by
  unfold ofWidget
  refine List.filterMap_congr fun event hevent => ?_
  unfold ofEvent? Widget.event
  rw [h event hevent]

namespace Setter

variable {w w' : Widget} {kind : WidgetKind}

theorem positionOf_congr (h : ∀ name ∈ kind.numberNames, w.number? name = w'.number? name) :
    positionOf w = positionOf w' := by
  unfold positionOf
  rw [h "x" (by simp [WidgetKind.numberNames]), h "y" (by simp [WidgetKind.numberNames])]

theorem sizeOf_congr (h : ∀ name ∈ kind.numberNames, w.number? name = w'.number? name) :
    sizeOf w = sizeOf w' := by
  unfold sizeOf
  rw [h "width" (by simp [WidgetKind.numberNames]), h "height" (by simp [WidgetKind.numberNames])]

theorem textOf_congr (h : ∀ name ∈ kind.textNames, w.text? name = w'.text? name) :
    textOf w kind = textOf w' kind := by
  unfold textOf
  cases hsetter : kind.textSetter? with
  | none => rfl
  | some function => rw [h "text" (by simp [WidgetKind.textNames, hsetter])]

theorem valueOf_congr (h : ∀ name ∈ kind.numberNames, w.number? name = w'.number? name) :
    valueOf w kind = valueOf w' kind := by
  unfold valueOf
  cases hfamily : kind.valueFamily? with
  | none => rfl
  | some family =>
    have hread : ∀ name ∈ ["min", "max", "value"], w.number? name = w'.number? name := by
      intro name hname
      refine h name ?_
      simp only [WidgetKind.numberNames, hfamily, Option.isSome_some, if_true, List.mem_append]
      exact .inl (.inr hname)
    rw [hread "min" (by simp), hread "max" (by simp), hread "value" (by simp)]

theorem colorsOf_congr (h : ∀ name ∈ kind.numberNames, w.number? name = w'.number? name) :
    colorsOf w = colorsOf w' := by
  unfold colorsOf
  refine List.filterMap_congr fun name hname => ?_
  rw [h name (List.mem_append_right _ hname)]

theorem ofWidget_congr (hnumbers : ∀ name ∈ kind.numberNames, w.number? name = w'.number? name)
    (htexts : ∀ name ∈ kind.textNames, w.text? name = w'.text? name) :
    ofWidget w kind = ofWidget w' kind := by
  unfold ofWidget
  rw [positionOf_congr hnumbers, sizeOf_congr hnumbers, textOf_congr htexts,
    valueOf_congr hnumbers, colorsOf_congr hnumbers]

end Setter

/-! ## Styles -/

theorem StyleStatement.ofStyle_congr {style style' : SharedStyle} (h : style.Alike style') :
    ofStyle style = ofStyle style' := by
  unfold ofStyle
  rw [h.id]
  dsimp only
  congr 1
  refine List.filterMap_congr fun name hname => ?_
  rw [h.numbers name hname]

variable {sheet sheet' : StyleSheet}

theorem isSome_get?_congr (h : sheet.Alike sheet') (id : String) :
    (sheet.get? id).isSome = (sheet'.get? id).isSome := by
  unfold StyleSheet.Alike at h
  unfold StyleSheet.get?
  generalize sheet.named = named at h ⊢
  generalize sheet'.named = named' at h ⊢
  induction h with
  | nil => rfl
  | cons hstyle _ ih =>
    rw [List.find?_cons, List.find?_cons, hstyle.id]
    split
    · rfl
    · exact ih

theorem styleVariables_congr (h : sheet.Alike sheet') :
    Emission.styleVariables sheet = Emission.styleVariables sheet' := by
  unfold StyleSheet.Alike at h
  unfold Emission.styleVariables
  generalize sheet.named = named at h ⊢
  generalize sheet'.named = named' at h ⊢
  induction h with
  | nil => rfl
  | cons hstyle _ ih => rw [List.map_cons, List.map_cons, hstyle.id, ih]

theorem setup_congr (h : sheet.Alike sheet') :
    sheet.named.map StyleStatement.ofStyle = sheet'.named.map StyleStatement.ofStyle := by
  unfold StyleSheet.Alike at h
  generalize sheet.named = named at h ⊢
  generalize sheet'.named = named' at h ⊢
  induction h with
  | nil => rfl
  | cons hstyle _ ih =>
    rw [List.map_cons, List.map_cons, StyleStatement.ofStyle_congr hstyle, ih]

/-! ## The walk -/

namespace Construction

theorem styleOf_congr (h : sheet.Alike sheet') (target : String) (styleId : Option String) :
    styleOf sheet target styleId = styleOf sheet' target styleId := by
  cases styleId with
  | none => rfl
  | some id =>
    unfold styleOf
    dsimp only
    rw [isSome_get?_congr h id]

theorem opening_congr (hsheet : sheet.Alike sheet') (target : String) (parent : Option String)
    (hproperties : Widget.SameProperties (WidgetKind.ofType type) properties properties') :
    opening sheet target parent ⟨type, id, children, styleId, events, properties⟩ =
      opening sheet' target parent ⟨type, id, children', styleId, events', properties'⟩ := by
  unfold opening
  dsimp only
  have hsetters : Setter.ofWidget ⟨type, id, children, styleId, events, properties⟩ (.ofType type) =
      Setter.ofWidget ⟨type, id, children', styleId, events', properties'⟩ (.ofType type) :=
    Setter.ofWidget_congr hproperties.numbers hproperties.texts
  rw [styleOf_congr hsheet, hsetters]

mutual

theorem ofWidget_congr (hsheet : sheet.Alike sheet') (identifiers : Identifiers) (path : String)
    (parent : Option String) (stubs : Stubs) :
    ∀ {w w' : Widget}, Widget.Alike w w' →
      ofWidget identifiers sheet path parent stubs w =
        ofWidget identifiers sheet' path parent stubs w'
  | _, _, .intro hevents hproperties hchildren => by
    rw [ofWidget, ofWidget]
    cases identifiers.get? path with
    | none => rfl
    | some identifier =>
      dsimp only
      rw [opening_congr hsheet _ _ hproperties, Registration.ofWidget_congr hevents identifier,
        ofChildren_congr hsheet identifiers path _ 0 _ hchildren]

theorem ofChildren_congr (hsheet : sheet.Alike sheet') (identifiers : Identifiers)
    (path parent : String) (index : Nat) (stubs : Stubs) :
    ∀ {children children' : List Widget}, Widget.AlikeAll children children' →
      ofChildren identifiers sheet path parent index stubs children =
        ofChildren identifiers sheet' path parent index stubs children'
  | _, _, .nil => rfl
  | _, _, .cons hw hrest => by
    rw [ofChildren, ofChildren, ofWidget_congr hsheet identifiers _ _ stubs hw,
      ofChildren_congr hsheet identifiers path parent (index + 1) _ hrest]

end

theorem ofRoot_congr (hsheet : sheet.Alike sheet') (identifiers : Identifiers)
    {root root' : Option Widget} (h : Option.Rel Widget.Alike root root') :
    ofRoot identifiers sheet root = ofRoot identifiers sheet' root' := by
  cases h with
  | none => rfl
  | some hroot => exact ofWidget_congr hsheet identifiers rootPath none .empty hroot

end Construction

end Readers

/-! ## Documents -/

namespace Emission

variable {layout layout' : Layout} {sheet sheet' : StyleSheet}

theorem sections_congr (options : EmitOptions) (hlayout : layout.Alike layout')
    (hsheet : sheet.Alike sheet') :
    sections options layout sheet = sections options layout' sheet' := by
  unfold Layout.Alike at hlayout
  simp only [sections, assign_congr hlayout, Construction.ofRoot_congr hsheet _ hlayout,
    styleVariables_congr hsheet, setup_congr hsheet]
  generalize layout.root = root at hlayout ⊢
  generalize layout'.root = root' at hlayout ⊢
  cases hlayout with
  | none => rfl
  | some _ => rfl

/-- **Layouts and sheets that are alike have the same documents**, identifiers and stubs. -/
theorem emit_congr (options : EmitOptions) (hlayout : layout.Alike layout')
    (hsheet : sheet.Alike sheet') : emit options layout sheet = emit options layout' sheet' := by
  unfold emit
  rw [sections_congr options hlayout hsheet, assign_congr hlayout]

end Emission

end GuardedUi
