import GuardedUi.Emit.Construction
import GuardedUi.Model.Layout
import GuardedUi.Proofs.Emit.Characters
import GuardedUi.Proofs.Name.Assignment

/-!
# `Proofs/Emit/Construction` — what building a tree brings into a document

Building a tree makes statements and stubs. Everything in them is a word or a numeral, with one
exception, and this file says which:

> **The texts in the statements are those that the widgets show, in pre-order**
> (`filterMap_shown?_ofRoot`), **and all else is tame** (`tame_ofRoot`).

`Layout.shownTexts` is the plain recursion over the tree, without paths and identifiers. That no
text is lost on the way needs every widget to have an identifier (`Name.named_assign`).
-/

set_option autoImplicit false

namespace GuardedUi

open Guard

/-! ## The texts of a tree -/

namespace Widget

/-- The text that a widget shows, if it is of a kind that shows one. -/
def shownText? (w : Widget) : Option String :=
  match WidgetKind.ofType w.type with
  | .label | .checkbox | .textarea => w.text? "text"
  | _ => none

mutual

/-- The texts that the widgets of a tree show, in pre-order. -/
def shownTexts : Widget → List String
  | ⟨type, id, children, styleId, events, properties⟩ =>
    (shownText? ⟨type, id, [], styleId, events, properties⟩).toList ++ shownTextsAll children

/-- The texts that the widgets of several trees show. -/
def shownTextsAll : List Widget → List String
  | [] => []
  | w :: rest => shownTexts w ++ shownTextsAll rest

end

end Widget

/-- The texts that the widgets of a layout show, in pre-order. -/
def Layout.shownTexts (layout : Layout) : List String :=
  match layout.root with
  | none => []
  | some root => root.shownTexts

theorem Setter.filterMap_shown?_ofWidget (w : Widget) :
    (Setter.ofWidget w (WidgetKind.ofType w.type)).filterMap Setter.shown? =
      w.shownText?.toList := by
  have hposition : (positionOf w).filterMap shown? = [] := by
    rw [positionOf]
    split <;> rfl
  have hsize : (sizeOf w).filterMap shown? = [] := by
    rw [sizeOf]
    split <;> rfl
  have hvalue : ∀ kind, (valueOf w kind).filterMap shown? = [] := by
    intro kind
    rw [valueOf]
    split
    · rfl
    · rw [List.filterMap_append]
      split <;> split <;> rfl
  have hcolors : (colorsOf w).filterMap shown? = [] := by
    rw [List.filterMap_eq_nil_iff]
    intro s hs
    obtain ⟨name, -, heq⟩ := List.mem_filterMap.mp hs
    obtain ⟨value, -, rfl⟩ := Option.map_eq_some_iff.mp heq
    rfl
  simp only [Setter.ofWidget, List.filterMap_append, hposition, hsize, hvalue, hcolors,
    List.nil_append, List.append_nil, Widget.shownText?, textOf]
  cases WidgetKind.ofType w.type <;> cases w.text? "text" <;> rfl

/-! ## Stubs -/

namespace Stubs

/-- Stubs can have regions, and none of them the one of the initializer. -/
def Regular (stubs : Stubs) : Prop :=
  ∀ name ∈ stubs.names, IsWord name ∧ name ≠ initRegion

theorem Regular.insert {stubs : Stubs} (h : stubs.Regular) {r : Registration}
    (hr : r.isStub = true → IsWord r.handler ∧ r.handler ≠ initRegion) :
    (stubs.insert r).Regular := by
  rw [Stubs.insert]
  split
  · rename_i haccepts
    simp only [accepts, Bool.and_eq_true] at haccepts
    intro name hn
    rcases List.mem_append.mp hn with hn | hn
    · exact h name hn
    · exact List.mem_singleton.mp hn ▸ hr haccepts.1
  · exact h

theorem Regular.insertAll {stubs : Stubs} (h : stubs.Regular) {registrations : List Registration}
    (hr : ∀ r ∈ registrations, r.isStub = true → IsWord r.handler ∧ r.handler ≠ initRegion) :
    (stubs.insertAll registrations).Regular := by
  induction registrations generalizing stubs with
  | nil => exact h
  | cons r rest ih =>
    exact ih (h.insert (hr r List.mem_cons_self)) fun other ho =>
      hr other (List.mem_cons_of_mem r ho)

end Stubs

theorem stubName_ne_initRegion (identifier property : String) :
    Event.stubName identifier property ≠ initRegion := by
  intro h
  have hhead := congrArg (fun name => name.toList.head?) h
  simp [Event.stubName, String.toList_append, initRegion] at hhead

theorem handler_ne_initRegion {w : Widget} {identifier : String} {r : Registration}
    (hr : r ∈ Registration.ofWidget w identifier) (hs : r.isStub = true) :
    r.handler ≠ initRegion := by
  obtain ⟨event, -, hof⟩ := List.mem_filterMap.mp hr
  rw [Registration.ofEvent?] at hof
  split at hof
  · obtain rfl := Option.some.inj hof
    exact absurd hs (by simp [Registration.isStub])
  · obtain rfl := Option.some.inj hof
    exact stubName_ne_initRegion identifier event.property
  · exact absurd hof (by simp)

/-! ## Constructions -/

namespace Construction

/-- The statements are tame, and so are the stubs. -/
structure Tame (c : Construction) : Prop where
  statements : ∀ s ∈ c.statements, s.Tame
  stubs : c.stubs.Regular

theorem exists_of_mem_styleOf {sheet : StyleSheet} {target : String} {styleId : Option String}
    {s : Statement} (h : s ∈ styleOf sheet target styleId) :
    ∃ id, (sheet.get? id).isSome = true ∧ s = .addStyle target (Name.styleVariable id) := by
  cases styleId with
  | none => simp [styleOf] at h
  | some id =>
    rw [styleOf] at h
    split at h
    · exact ⟨id, ‹_›, List.mem_singleton.mp h⟩
    · simp at h

theorem tame_opening (sheet : StyleSheet) {target : String} (ht : IsWord target)
    {parent : Option String} (hp : ∀ p ∈ parent, IsWord p) (w : Widget) :
    ∀ s ∈ opening sheet target parent w, s.Tame := by
  intro s hs
  rcases List.mem_append.mp hs with hs | hs
  · rcases List.mem_cons.mp hs with rfl | hs
    · exact ⟨ht, hp⟩
    · obtain ⟨id, -, rfl⟩ := exists_of_mem_styleOf hs
      exact ⟨ht, Name.isWord_styleVariable id⟩
  · obtain ⟨setter, hsetter, rfl⟩ := List.mem_map.mp hs
    exact ⟨ht, Setter.tame_of_mem_ofWidget setter hsetter⟩

mutual

theorem tame_ofWidget {identifiers : Name.Identifiers} (hi : Name.Wordy identifiers)
    (sheet : StyleSheet) (path : String) {parent : Option String} (hp : ∀ p ∈ parent, IsWord p)
    {stubs : Stubs} (hs : stubs.Regular) :
    ∀ w : Widget, (ofWidget identifiers sheet path parent stubs w).Tame
  | ⟨type, id, children, styleId, events, properties⟩ => by
    rw [ofWidget]
    cases hget : identifiers.get? path with
    | none => exact ⟨by simp, hs⟩
    | some identifier =>
      -- What the widget itself brings in comes first, so the children start from its stubs.
      have hword := hi path identifier hget
      have htarget := Name.isWord_widgetVariable hword
      let w : Widget := ⟨type, id, [], styleId, events, properties⟩
      have hnames : ∀ r ∈ Registration.ofWidget w identifier, r.isStub = true →
          IsWord r.handler ∧ r.handler ≠ initRegion :=
        fun r hr hstub => ⟨isWord_handler hword hr, handler_ne_initRegion hr hstub⟩
      have hregular := hs.insertAll hnames
      obtain ⟨hinner, hstubs⟩ := tame_ofChildren hi sheet path htarget 0 hregular children
      refine ⟨fun s hm => ?_, hstubs⟩
      rcases List.mem_append.mp hm with hm | hm
      · rcases List.mem_append.mp hm with hm | hm
        · exact tame_opening sheet htarget hp w s hm
        · exact hinner s hm
      · obtain ⟨r, hr, rfl⟩ := List.mem_map.mp hm
        exact ⟨htarget, isWord_handler hword hr, isWord_code hr⟩

theorem tame_ofChildren {identifiers : Name.Identifiers} (hi : Name.Wordy identifiers)
    (sheet : StyleSheet) (path : String) {parent : String} (hp : IsWord parent) (index : Nat)
    {stubs : Stubs} (hs : stubs.Regular) :
    ∀ children : List Widget,
      (ofChildren identifiers sheet path parent index stubs children).Tame
  | [] => ⟨by simp [ofChildren], by simpa [ofChildren] using hs⟩
  | w :: rest => by
    rw [ofChildren]
    have hparent : ∀ p ∈ some parent, IsWord p := fun p h => Option.some.inj h ▸ hp
    obtain ⟨hfirst, hstubs⟩ := tame_ofWidget hi sheet (Name.childPath path index) hparent hs w
    obtain ⟨hothers, hstubs⟩ := tame_ofChildren hi sheet path hp (index + 1) hstubs rest
    exact ⟨fun s hm => (List.mem_append.mp hm).elim (hfirst s) (hothers s), hstubs⟩

end

theorem tame_ofRoot (sheet : StyleSheet) (root : Option Widget) :
    (ofRoot (Name.assign root) sheet root).Tame := by
  have hempty : Stubs.empty.Regular := fun name h => by simp [Stubs.empty] at h
  cases root with
  | none => exact ⟨by simp [ofRoot], hempty⟩
  | some root => exact tame_ofWidget (Name.wordy_assign _) sheet _ (by simp) hempty root

/-! ## Texts in statements -/

theorem filterMap_shown?_opening (sheet : StyleSheet) (target : String) (parent : Option String)
    (w : Widget) :
    (opening sheet target parent w).filterMap Statement.shown? = w.shownText?.toList := by
  have hstyle : (styleOf sheet target w.styleId).filterMap Statement.shown? = [] := by
    rw [List.filterMap_eq_nil_iff]
    intro s hs
    obtain ⟨id, -, rfl⟩ := exists_of_mem_styleOf hs
    rfl
  rw [← Setter.filterMap_shown?_ofWidget w]
  simp only [opening, List.cons_append, List.filterMap_cons, Statement.shown?,
    List.filterMap_append, hstyle, List.nil_append, List.filterMap_map]
  rfl

mutual

theorem filterMap_shown?_ofWidget {identifiers : Name.Identifiers} (sheet : StyleSheet)
    {path : String} (parent : Option String) (stubs : Stubs) :
    ∀ {w : Widget}, Name.Named identifiers path w →
      (ofWidget identifiers sheet path parent stubs w).statements.filterMap Statement.shown? =
        w.shownTexts
  | ⟨type, id, children, styleId, events, properties⟩, hn => by
    rw [Name.Named] at hn
    obtain ⟨hpath, hchildren⟩ := hn
    rw [ofWidget, Widget.shownTexts]
    cases hget : identifiers.get? path with
    | none => exact absurd hpath (Bag.get?_eq_none_iff.mp hget)
    | some identifier =>
      have hevents : ∀ (target : String) (registrations : List Registration),
          (registrations.map (Statement.addEvent target)).filterMap Statement.shown? = [] :=
        fun target registrations => by
          rw [List.filterMap_eq_nil_iff]
          intro s hs
          obtain ⟨r, -, rfl⟩ := List.mem_map.mp hs
          rfl
      simp only [List.filterMap_append, filterMap_shown?_opening, hevents, List.append_nil]
      rw [filterMap_shown?_ofChildren sheet _ _ hchildren]

theorem filterMap_shown?_ofChildren {identifiers : Name.Identifiers} (sheet : StyleSheet)
    {path : String} (parent : String) {index : Nat} (stubs : Stubs) :
    ∀ {children : List Widget}, Name.NamedAll identifiers path index children →
      (ofChildren identifiers sheet path parent index stubs children).statements.filterMap
        Statement.shown? = Widget.shownTextsAll children
  | [], _ => by rw [ofChildren, Widget.shownTextsAll]; rfl
  | w :: rest, hn => by
    rw [Name.NamedAll] at hn
    rw [ofChildren, Widget.shownTextsAll, List.filterMap_append,
      filterMap_shown?_ofWidget sheet _ _ hn.1, filterMap_shown?_ofChildren sheet _ _ hn.2]

end

/-- **The texts in the statements are those that the widgets show, in pre-order.** -/
theorem filterMap_shown?_ofRoot (sheet : StyleSheet) (layout : Layout) :
    (ofRoot (Name.assign layout.root) sheet layout.root).statements.filterMap Statement.shown? =
      layout.shownTexts := by
  rw [Layout.shownTexts]
  cases layout.root with
  | none => rfl
  | some root => exact filterMap_shown?_ofWidget sheet _ _ (Name.named_assign root)

end Construction

end GuardedUi
