import GuardedUi.Model.Widget
import GuardedUi.Proofs.Model.Property

/-!
# `Proofs/Model/Widget` — a widget tree, written and read again

Reading a widget takes the fields of a record apart, writing one puts them together in another order.
What reading establishes is `Widget.Sound`: events and properties are told apart by their names, no
property has the name of a structural field, their values are what values can be, and nothing is
nested deeper than was allowed. That is enough for the way back:

> **A sound widget comes back from what is written, without the events bound to nothing**
> (`ofTree?_tree_toJson`).

Those events are not written at all. `Widget.boundOnly` leaves them out of the whole tree, and is
written in the same way (`toJson_boundOnly`).
-/

set_option autoImplicit false

namespace GuardedUi

open Json

/-! ## Leaving out events bound to nothing -/

/-- The binding, if it binds. -/
def Binding.bound? : Binding → Option Binding
  | .none => Option.none
  | b => some b

namespace Widget

mutual

/-- The tree without the events that are bound to nothing. -/
def boundOnly : Widget → Widget
  | ⟨type, id, children, styleId, events, properties⟩ =>
    ⟨type, id, boundOnlyAll children, styleId, events.filterMap fun _ b => b.bound?, properties⟩

def boundOnlyAll : List Widget → List Widget
  | [] => []
  | w :: rest => boundOnly w :: boundOnlyAll rest

end

mutual

/-- The numbers that the widgets of a tree have as properties. -/
def numbers : Widget → List Double
  | ⟨_, _, children, _, _, properties⟩ =>
    properties.values.flatMap Property.numbers ++ numbersAll children

def numbersAll : List Widget → List Double
  | [] => []
  | w :: rest => numbers w ++ numbersAll rest

end

/-! ## Sound trees -/

/-- The names that a property cannot have. -/
def structuralNames : List String :=
  ["type", "id", "children", "styleId"]

/-- What a widget is like that was read, where lists and records may be nested `depth` deep: events
and properties have their own names and the values that they are read as. -/
inductive Sound : Nat → Widget → Prop where
  | intro {depth : Nat} {type : String} {id styleId : Option String} {children : List Widget}
      {events : Bag Binding} {properties : Bag Property}
      (hevents : ∀ entry ∈ events.entries, Binding.isEventName entry.1 = true ∧ entry.2.Kept)
      (hproperties : ∀ entry ∈ properties.entries,
        Binding.isEventName entry.1 = false ∧ entry.1 ∉ structuralNames ∧
          ∃ v : Value, v.Readable depth ∧ entry.2 = Property.ofValue v)
      (hroom : children ≠ [] → depth ≠ 0)
      (hchildren : ∀ child ∈ children, Sound (depth - 1) child) :
    Sound (depth + 1) ⟨type, id, children, styleId, events, properties⟩

/-- What a field of a sound widget is like. -/
def Field.Sound (depth : Nat) : Field → Prop
  | .children widgets => (widgets ≠ [] → depth ≠ 0) ∧ ∀ w ∈ widgets, Widget.Sound (depth - 1) w
  | .other name value => name ∉ structuralNames ∧ value.Readable depth
  | _ => True

theorem sound_of_ofFields? {depth : Nat} {fields : List Field} {w : Widget}
    (hfields : ∀ field ∈ fields, field.Sound depth) (h : ofFields? fields = some w) :
    w.Sound (depth + 1) := by
  -- What stands side by side with the structural fields comes from fields of its own.
  have hothers : ∀ entry ∈ (Bag.ofList (fields.filterMap Field.other?)).entries,
      entry.1 ∉ structuralNames ∧ entry.2.Readable depth := by
    intro entry he
    obtain ⟨field, hf, heq⟩ := List.mem_filterMap.mp (Bag.mem_of_mem_ofList he)
    cases field with
    | other name value =>
      obtain rfl := Option.some.inj heq
      exact hfields _ hf
    | _ => cases heq
  have hchildren : ∀ widgets ∈ (fields.filterMap Field.children?).head?,
      (widgets ≠ [] → depth ≠ 0) ∧ ∀ w ∈ widgets, w.Sound (depth - 1) := by
    intro widgets hw
    obtain ⟨field, hf, heq⟩ := List.mem_filterMap.mp (List.mem_of_mem_head? hw)
    cases field with
    | children other =>
      obtain rfl := Option.some.inj heq
      exact hfields _ hf
    | _ => cases heq
  unfold ofFields? at h
  simp only at h
  split at h
  · split at h
    · obtain rfl := Option.some.inj h
      refine .intro (fun entry he => ?_) (fun entry he => ?_) ?_ ?_
      · obtain ⟨value, -, hbinding⟩ := Bag.mem_filterMap.mp he
        split at hbinding
        · exact ⟨‹_›, Option.some.inj hbinding ▸ Binding.kept_ofValue value⟩
        · cases hbinding
      · obtain ⟨value, hvalue, hproperty⟩ := Bag.mem_filterMap.mp he
        split at hproperty
        · cases hproperty
        · rename_i hname
          obtain ⟨hstructural, hreadable⟩ := hothers _ hvalue
          exact ⟨Bool.eq_false_iff.mpr hname, hstructural, value, hreadable,
            (Option.some.inj hproperty).symm⟩
      · cases hhead : (fields.filterMap Field.children?).head? with
        | none => simp
        | some widgets => exact (hchildren widgets hhead).1
      · cases hhead : (fields.filterMap Field.children?).head? with
        | none => simp
        | some widgets => exact (hchildren widgets hhead).2
    · cases h
  · cases h

theorem notMem_structuralNames {name : String} (htype : name ≠ "type") (hid : name ≠ "id")
    (hchildren : name ≠ "children") (hstyle : name ≠ "styleId") : name ∉ structuralNames := by
  simp [structuralNames, htype, hid, hchildren, hstyle]

mutual

/-- **A widget that was read is sound.** -/
theorem sound_of_ofTree? {depth : Nat} : ∀ {tree : Tree} {w : Widget}, tree.Bounded →
    ofTree? depth tree = some w → w.Sound depth
  | .record fields, w, .record hb, h => by
    cases depth with
    | zero => simp [ofTree?] at h
    | succ depth =>
      rw [ofTree?] at h
      obtain ⟨read, hread, hw⟩ := Option.bind_eq_some_iff.mp h
      exact sound_of_ofFields? (sound_of_readFields? hb hread) hw
  | .null, _, _, h => by simp [ofTree?] at h
  | .bool _, _, _, h => by simp [ofTree?] at h
  | .number _, _, _, h => by simp [ofTree?] at h
  | .text _, _, _, h => by simp [ofTree?] at h
  | .list _, _, _, h => by simp [ofTree?] at h

theorem sound_of_readFields? {depth : Nat} : ∀ {fields : List (Content × Tree)}
    {read : List Field}, (∀ field ∈ fields, field.2.Bounded) →
      readFields? depth fields = some read → ∀ field ∈ read, field.Sound depth
  | [], read, _, h => by
    rw [readFields?] at h
    simp [← Option.some.inj h]
  | (none, tree) :: rest, read, _, h => by simp [readFields?] at h
  | (some name, tree) :: rest, read, hb, h => by
    obtain ⟨htree, hrest⟩ := List.forall_mem_cons.mp hb
    rw [readFields?] at h
    split at h
    · rename_i field fields hfield hfields
      rw [← Option.some.inj h]
      refine List.forall_mem_cons.mpr ⟨?_, sound_of_readFields? hrest hfields⟩
      split at hfield
      · obtain ⟨type, -, rfl⟩ := Option.map_eq_some_iff.mp hfield
        trivial
      split at hfield
      · obtain ⟨id, -, rfl⟩ := Option.map_eq_some_iff.mp hfield
        trivial
      split at hfield
      · obtain ⟨widgets, hwidgets, rfl⟩ := Option.map_eq_some_iff.mp hfield
        exact sound_of_readChildren? htree hwidgets
      split at hfield
      · obtain ⟨style, -, rfl⟩ := Option.map_eq_some_iff.mp hfield
        trivial
      · rename_i htype hid hchildren hstyle
        obtain ⟨value, hvalue, rfl⟩ := Option.map_eq_some_iff.mp hfield
        exact ⟨notMem_structuralNames htype hid hchildren hstyle,
          Value.readable_of_ofTree? htree hvalue⟩
    · cases h

theorem sound_of_readChildren? {depth : Nat} : ∀ {tree : Tree} {widgets : List Widget},
    tree.Bounded → readChildren? depth tree = some widgets → Field.Sound depth (.children widgets)
  | .list items, widgets, .list hb, h => by
    cases depth with
    | zero => simp [readChildren?] at h
    | succ depth =>
      rw [readChildren?] at h
      exact ⟨fun _ => Nat.succ_ne_zero depth, sound_of_ofItems? hb h⟩
  | .null, _, _, h => by simp [readChildren?] at h
  | .bool _, _, _, h => by simp [readChildren?] at h
  | .number _, _, _, h => by simp [readChildren?] at h
  | .text _, _, _, h => by simp [readChildren?] at h
  | .record _, _, _, h => by simp [readChildren?] at h

theorem sound_of_ofItems? {depth : Nat} : ∀ {items : List Tree} {widgets : List Widget},
    (∀ item ∈ items, item.Bounded) → ofItems? depth items = some widgets →
      ∀ w ∈ widgets, w.Sound depth
  | [], widgets, _, h => by
    rw [ofItems?] at h
    simp [← Option.some.inj h]
  | item :: rest, widgets, hb, h => by
    obtain ⟨hitem, hrest⟩ := List.forall_mem_cons.mp hb
    rw [ofItems?] at h
    split at h
    · rename_i hw hws
      rw [← Option.some.inj h]
      exact List.forall_mem_cons.mpr ⟨sound_of_ofTree? hitem hw, sound_of_ofItems? hrest hws⟩
    · cases h

end

/-! ## What stands side by side with the structural fields -/

/-- What stands in the two bags of the widget is told apart by its names, and is kept. -/
structure BagsKept (depth : Nat) (w : Widget) : Prop where
  eventNames : ∀ entry ∈ w.events.entries, Binding.isEventName entry.1 = true
  events : ∀ entry ∈ w.events.entries, entry.2.Kept
  propertyNames : ∀ entry ∈ w.properties.entries,
    Binding.isEventName entry.1 = false ∧ entry.1 ∉ structuralNames
  properties : ∀ entry ∈ w.properties.entries, entry.2.Kept depth

namespace BagsKept

variable {depth : Nat} {w : Widget}

theorem nodup (h : BagsKept depth w) : ((w.events.filterMap fun _ b => b.toValue?).names ++
    (w.properties.entries.map fun entry => (entry.1, entry.2.toValue)).map Prod.fst).Nodup := by
  rw [List.map_map, List.nodup_append]
  refine ⟨(w.events.filterMap _).distinct, w.properties.distinct, ?_⟩
  rintro name hname other hother rfl
  obtain ⟨⟨n, v⟩, hbound, rfl⟩ := List.mem_map.mp hname
  obtain ⟨b, hb, -⟩ := Bag.mem_filterMap.mp hbound
  obtain ⟨property, hproperty, heq⟩ := List.mem_map.mp hother
  have hnot := (h.propertyNames _ hproperty).1
  rw [show property.1 = n from heq, h.eventNames _ hb] at hnot
  exact absurd hnot (by decide)

/-- No property takes the place of an event. -/
theorem openFields_eq (h : BagsKept depth w) :
    w.openFields = (w.events.filterMap fun _ b => b.toValue?).entries ++
      w.properties.entries.map fun entry => (entry.1, entry.2.toValue) := by
  have hentries := Bag.entries_foldl_put _ h.nodup
  rw [List.foldl_map] at hentries
  exact hentries

theorem entries_ofList (h : BagsKept depth w) :
    (Bag.ofList w.openFields).entries = w.openFields := by
  refine Bag.entries_ofList ?_
  rw [h.openFields_eq, List.map_append]
  exact h.nodup

theorem faithful (h : BagsKept depth w) :
    ∀ field ∈ w.openFields, field.1 ∉ structuralNames ∧ field.2.Faithful depth := by
  have hstructural : ∀ name ∈ structuralNames, Binding.isEventName name = false := by decide
  intro field hfield
  rw [h.openFields_eq] at hfield
  rcases List.mem_append.mp hfield with hfield | hfield
  · obtain ⟨b, hb, hvalue⟩ := Bag.mem_filterMap.mp hfield
    refine ⟨fun hm => ?_, Binding.faithful_of_toValue? hvalue depth⟩
    have hevent := h.eventNames _ hb
    rw [hstructural _ hm] at hevent
    exact absurd hevent (by decide)
  · obtain ⟨entry, he, rfl⟩ := List.mem_map.mp hfield
    exact ⟨(h.propertyNames entry he).2, (h.properties entry he).faithful⟩

/-- The events that bind come back. -/
theorem events_eq (h : BagsKept depth w) :
    ((Bag.ofList w.openFields).filterMap fun name value =>
      if Binding.isEventName name then some (Binding.ofValue value) else none) =
      w.events.filterMap fun _ b => b.bound? := by
  have hevents : ∀ entry ∈ w.events.entries,
      ((entry.2.toValue?.map fun value => (entry.1, value)).bind fun field =>
        (if Binding.isEventName field.1 then some (Binding.ofValue field.2) else none).map
          fun b => (field.1, b)) = entry.2.bound?.map fun b => (entry.1, b) := by
    rintro ⟨name, b⟩ he
    have hname : Binding.isEventName name = true := h.eventNames _ he
    have hkept : b.Kept := h.events _ he
    cases b with
    | handler function => simp [Binding.toValue?, Binding.bound?, hname, hkept (.text function) rfl]
    | stub => simp [Binding.toValue?, Binding.bound?, hname, hkept (.bool true) rfl]
    | none => rfl
  have hproperties : ∀ field ∈ w.properties.entries.map fun entry => (entry.1, entry.2.toValue),
      (if Binding.isEventName field.1 then some (Binding.ofValue field.2) else none).map
        (fun b => (field.1, b)) = none := by
    intro field hfield
    obtain ⟨entry, he, rfl⟩ := List.mem_map.mp hfield
    simp [(h.propertyNames entry he).1]
  refine Bag.eq_of_entries ?_
  rw [Bag.entries_filterMap, h.entries_ofList, h.openFields_eq, List.filterMap_append,
    Bag.entries_filterMap, List.filterMap_filterMap, List.filterMap_congr hevents,
    List.filterMap_eq_nil_iff.mpr hproperties, List.append_nil]
  rfl

/-- The properties come back. -/
theorem properties_eq (h : BagsKept depth w) :
    ((Bag.ofList w.openFields).filterMap fun name value =>
      if Binding.isEventName name then none else some (Property.ofValue value)) =
      w.properties := by
  have hevents : ∀ field ∈ (w.events.filterMap fun _ b => b.toValue?).entries,
      (if Binding.isEventName field.1 then none else some (Property.ofValue field.2)).map
        (fun p => (field.1, p)) = none := by
    intro field hfield
    obtain ⟨b, hb, -⟩ := Bag.mem_filterMap.mp hfield
    simp [show Binding.isEventName field.1 = true from h.eventNames _ hb]
  have hproperties : ∀ entry ∈ w.properties.entries,
      (if Binding.isEventName entry.1 then none else some (Property.ofValue entry.2.toValue)).map
        (fun p => (entry.1, p)) = some entry := by
    intro entry he
    simp [(h.propertyNames entry he).1, (h.properties entry he).same]
  refine Bag.eq_of_entries ?_
  rw [Bag.entries_filterMap, h.entries_ofList, h.openFields_eq, List.filterMap_append,
    List.filterMap_eq_nil_iff.mpr hevents, List.nil_append, List.filterMap_map]
  exact (List.filterMap_congr hproperties).trans List.filterMap_some

end BagsKept

/-- The bags of a sound widget are kept, as far as its numbers are read back. -/
theorem bagsKept_of_sound {depth : Nat} {type : String} {id styleId : Option String}
    {children : List Widget} {events : Bag Binding} {properties : Bag Property}
    (h : Sound (depth + 1) ⟨type, id, children, styleId, events, properties⟩)
    (hnumbers : ∀ d ∈ properties.values.flatMap Property.numbers,
      d.isFinite = true → d.ReadsBack) :
    BagsKept depth ⟨type, id, [], styleId, events, properties⟩ := by
  cases h with
  | intro hevents hproperties _ _ =>
    refine ⟨fun entry he => (hevents entry he).1, fun entry he => (hevents entry he).2,
      fun entry he => ?_, fun entry he => ?_⟩
    · obtain ⟨hname, hstructural, -⟩ := hproperties entry he
      exact ⟨hname, hstructural⟩
    · obtain ⟨-, -, v, hreadable, heq⟩ := hproperties entry he
      have hvalue : entry.2 ∈ properties.values := List.mem_map_of_mem he
      rw [heq] at hvalue ⊢
      exact Property.kept_ofValue hreadable fun d hd =>
        hnumbers d (List.mem_flatMap.mpr ⟨_, hvalue, hd⟩)

/-! ## The fields that are written -/

section

variable {depth : Nat}

theorem readFields?_append {a b : List (Content × Tree)} {x y : List Field}
    (ha : readFields? depth a = some x) (hb : readFields? depth b = some y) :
    readFields? depth (a ++ b) = some (x ++ y) := by
  induction a generalizing x with
  | nil =>
    rw [readFields?] at ha
    obtain rfl := Option.some.inj ha
    exact hb
  | cons field rest ih =>
    obtain ⟨name, tree⟩ := field
    rw [List.cons_append]
    unfold readFields? at ha ⊢
    simp only at ha ⊢
    split at ha
    · rename_i first others hfirst hothers
      obtain rfl := Option.some.inj ha
      rw [hfirst, ih hothers]
      rfl
    · cases ha

theorem readFields?_others {fields : List (String × Value)}
    (h : ∀ field ∈ fields, field.1 ∉ structuralNames ∧ field.2.Faithful depth) :
    readFields? depth (Value.fieldTrees fields) =
      some (fields.map fun field => .other field.1 field.2) := by
  induction fields with
  | nil => rw [Value.fieldTrees, readFields?]; rfl
  | cons field rest ih =>
    obtain ⟨name, value⟩ := field
    obtain ⟨⟨hname, hvalue⟩, hrest⟩ := List.forall_mem_cons.mp h
    simp only [structuralNames, List.mem_cons, List.not_mem_nil, or_false, not_or] at hname
    obtain ⟨htype, hid, hchildren, hstyle⟩ := hname
    rw [Value.fieldTrees, readFields?, ih hrest]
    simp [htype, hid, hchildren, hstyle, Value.ofTree?_tree hvalue]

/-- The structural fields of a widget in the order in which they are written. -/
def structuralFields (type : String) (id styleId : Option String) (children : List Widget) :
    List Field :=
  [.type type] ++ (id.toList.map fun id => .id (some id)) ++
    (if children.isEmpty then [] else [.children children]) ++
    styleId.toList.map fun style => .style (.text style)

section

variable (type : String) (id styleId : Option String) (children : List Widget)
  (others : List (String × Value))

theorem filterMap_fields {α : Type} (f : Field → Option α)
    (h : ∀ name value, f (.other name value) = none) :
    (structuralFields type id styleId children ++
      others.map fun field => Field.other field.1 field.2).filterMap f =
        (structuralFields type id styleId children).filterMap f := by
  have hothers : (others.map fun field => Field.other field.1 field.2).filterMap f = [] := by
    rw [List.filterMap_eq_nil_iff]
    intro field hfield
    obtain ⟨source, -, rfl⟩ := List.mem_map.mp hfield
    exact h source.1 source.2
  rw [List.filterMap_append, hothers, List.append_nil]

theorem filterMap_other_fields :
    (structuralFields type id styleId children ++
      others.map fun field => Field.other field.1 field.2).filterMap Field.other? = others := by
  have hothers : (others.map fun field => Field.other field.1 field.2).filterMap Field.other? =
      others := by
    rw [List.filterMap_map]
    exact List.filterMap_some
  rw [List.filterMap_append, hothers]
  cases id <;> cases children <;> cases styleId <;> rfl

/-- The fields that are written describe the widget. -/
theorem ofFields?_fields :
    ofFields? (structuralFields type id styleId children ++
      others.map fun field => .other field.1 field.2) = some {
        type, id, children, styleId
        events := (Bag.ofList others).filterMap fun name value =>
          if Binding.isEventName name then some (Binding.ofValue value) else none
        properties := (Bag.ofList others).filterMap fun name value =>
          if Binding.isEventName name then none else some (Property.ofValue value) } := by
  unfold ofFields?
  rw [filterMap_other_fields, filterMap_fields _ _ _ _ _ Field.type? fun _ _ => rfl,
    filterMap_fields _ _ _ _ _ Field.id? fun _ _ => rfl,
    filterMap_fields _ _ _ _ _ Field.children? fun _ _ => rfl,
    filterMap_fields _ _ _ _ _ Field.style? fun _ _ => rfl]
  cases id <;> cases children <;> cases styleId <;> rfl

end

/-- Structural fields are read back, if the children are. -/
theorem readFields?_structural (type : String) (id styleId : Option String)
    {widgets : List Widget} {items : Value}
    (hchildren : widgets ≠ [] → readChildren? depth items.tree = some widgets) :
    readFields? depth (Value.fieldTrees ([("type", .text type)] ++ Value.fieldIf "id" id .text ++
      (if widgets.isEmpty then [] else [("children", items)]) ++
      Value.fieldIf "styleId" styleId .text)) =
        some (structuralFields type id styleId widgets) := by
  have htype : readFields? depth (Value.fieldTrees [("type", .text type)]) = some [.type type] := by
    simp [Value.fieldTrees, Value.tree, readFields?, Tree.string?]
  have hid : readFields? depth (Value.fieldTrees (Value.fieldIf "id" id .text)) =
      some (id.toList.map fun id => .id (some id)) := by
    cases id <;> simp [Value.fieldIf, Value.fieldTrees, Value.tree, readFields?, Tree.string?,
      Tree.optional]
  have hwidgets : readFields? depth
      (Value.fieldTrees (if widgets.isEmpty then [] else [("children", items)])) =
        some (if widgets.isEmpty then [] else [.children widgets]) := by
    cases widgets with
    | nil => simp [Value.fieldTrees, readFields?]
    | cons w rest =>
      simp [Value.fieldTrees, readFields?, hchildren (List.cons_ne_nil w rest)]
  have hstyle : readFields? depth (Value.fieldTrees (Value.fieldIf "styleId" styleId .text)) =
      some (styleId.toList.map fun style => .style (.text style)) := by
    cases styleId <;> simp [Value.fieldIf, Value.fieldTrees, Value.tree, readFields?,
      Value.ofTree?]
  simp only [Value.fieldTrees_append]
  exact readFields?_append (readFields?_append (readFields?_append htype hid) hwidgets) hstyle

end

/-! ## The way back -/

theorem toJson_eq (type : String) (id styleId : Option String) (children : List Widget)
    (events : Bag Binding) (properties : Bag Property) :
    toJson ⟨type, id, children, styleId, events, properties⟩ = .record (
      [("type", .text type)] ++ Value.fieldIf "id" id .text ++
      (if children.isEmpty then [] else [("children", .list (toJsonAll children))]) ++
      Value.fieldIf "styleId" styleId .text ++
      openFields ⟨type, id, [], styleId, events, properties⟩) := by
  cases children <;> simp only [toJson, List.isEmpty_nil, List.isEmpty_cons] <;> rfl

theorem isEmpty_boundOnlyAll : ∀ children : List Widget,
    (boundOnlyAll children).isEmpty = children.isEmpty
  | [] => rfl
  | _ :: _ => rfl

mutual

/-- **A sound widget comes back from what is written, without the events bound to nothing.** -/
theorem ofTree?_tree_toJson {depth : Nat} : ∀ {w : Widget}, w.Sound depth →
    (∀ d ∈ w.numbers, d.isFinite = true → d.ReadsBack) →
      ofTree? depth w.toJson.tree = some w.boundOnly
  | ⟨type, id, children, styleId, events, properties⟩, h, hnumbers => by
    rw [numbers] at hnumbers
    obtain ⟨hown, hbelow⟩ := List.forall_mem_append.mp hnumbers
    cases depth with
    | zero => nomatch h
    | succ depth =>
      have hbags := bagsKept_of_sound h hown
      cases h with
      | intro _ _ hroom hsound =>
        -- A list is written only if there are children, and then it was read at this place.
        have hchildren : boundOnlyAll children ≠ [] →
            readChildren? depth (Value.list (toJsonAll children)).tree =
              some (boundOnlyAll children) := by
          intro hne
          have hwidgets := ofItems?_trees_toJsonAll hsound hbelow
          cases depth with
          | zero =>
            refine absurd rfl (hroom fun hnil => hne ?_)
            rw [hnil, boundOnlyAll]
          | succ depth =>
            rw [Value.tree, readChildren?]
            exact hwidgets
        have hstructural := readFields?_structural type id styleId hchildren
        rw [isEmpty_boundOnlyAll] at hstructural
        rw [toJson_eq, Value.tree, ofTree?, Value.fieldTrees_append,
          readFields?_append hstructural (readFields?_others hbags.faithful), Option.bind_some,
          ofFields?_fields, hbags.events_eq, hbags.properties_eq, boundOnly]

theorem ofItems?_trees_toJsonAll {depth : Nat} : ∀ {widgets : List Widget},
    (∀ w ∈ widgets, w.Sound depth) →
    (∀ d ∈ numbersAll widgets, d.isFinite = true → d.ReadsBack) →
      ofItems? depth (Value.trees (toJsonAll widgets)) = some (boundOnlyAll widgets)
  | [], _, _ => by rw [toJsonAll, Value.trees, ofItems?, boundOnlyAll]
  | w :: rest, h, hnumbers => by
    rw [numbersAll] at hnumbers
    obtain ⟨hfirst, hothers⟩ := List.forall_mem_append.mp hnumbers
    obtain ⟨hw, hrest⟩ := List.forall_mem_cons.mp h
    rw [toJsonAll, Value.trees, ofItems?, ofTree?_tree_toJson hw hfirst,
      ofItems?_trees_toJsonAll hrest hothers, boundOnlyAll]

end

/-! ## Texts of widgets -/

mutual

theorem legible_toJson {depth : Nat} : ∀ {w : Widget}, w.Sound depth →
    (∀ d ∈ w.numbers, d.isFinite = true → d.ReadsBack) → w.toJson.Legible
  | ⟨type, id, children, styleId, events, properties⟩, h, hnumbers => by
    rw [numbers] at hnumbers
    obtain ⟨hown, hbelow⟩ := List.forall_mem_append.mp hnumbers
    cases depth with
    | zero => nomatch h
    | succ depth =>
      have hbags := bagsKept_of_sound h hown
      cases h with
      | intro _ _ _ hsound =>
        have hwidgets : ∀ field ∈
            if children.isEmpty then [] else [("children", Value.list (toJsonAll children))],
            field.2.Legible := by
          split
          · exact fun field hfield => absurd hfield List.not_mem_nil
          · exact List.forall_mem_singleton.mpr (.list (legible_toJsonAll hsound hbelow))
        have hopen : ∀ field ∈ openFields ⟨type, id, [], styleId, events, properties⟩,
            field.2.Legible := fun field hfield => (hbags.faithful field hfield).2.legible
        rw [toJson_eq]
        refine .record ?_
        simp only [List.forall_mem_append]
        exact ⟨⟨⟨⟨List.forall_mem_singleton.mpr .text, Value.legible_fieldIf fun _ _ => .text⟩,
          hwidgets⟩, Value.legible_fieldIf fun _ _ => .text⟩, hopen⟩

theorem legible_toJsonAll {depth : Nat} : ∀ {widgets : List Widget},
    (∀ w ∈ widgets, w.Sound depth) →
    (∀ d ∈ numbersAll widgets, d.isFinite = true → d.ReadsBack) →
      ∀ v ∈ toJsonAll widgets, v.Legible
  | [], _, _ => by simp [toJsonAll]
  | w :: rest, h, hnumbers => by
    rw [numbersAll] at hnumbers
    obtain ⟨hfirst, hothers⟩ := List.forall_mem_append.mp hnumbers
    obtain ⟨hw, hrest⟩ := List.forall_mem_cons.mp h
    rw [toJsonAll]
    exact List.forall_mem_cons.mpr
      ⟨legible_toJson hw hfirst, legible_toJsonAll hrest hothers⟩

end

/-! ## Events bound to nothing -/

theorem openFields_bound (type : String) (id styleId : Option String) (events : Bag Binding)
    (properties : Bag Property) :
    openFields ⟨type, id, [], styleId, events.filterMap fun _ b => b.bound?, properties⟩ =
      openFields ⟨type, id, [], styleId, events, properties⟩ := by
  have hevents : ((events.filterMap fun _ b => b.bound?).filterMap fun _ b => b.toValue?) =
      events.filterMap fun _ b => b.toValue? := by
    refine Bag.eq_of_entries ?_
    simp only [Bag.entries_filterMap, List.filterMap_filterMap]
    refine List.filterMap_congr fun entry _ => ?_
    cases entry.2 <;> rfl
  unfold openFields
  dsimp only
  rw [hevents]

mutual

/-- **Events bound to nothing are not written.** -/
theorem toJson_boundOnly : ∀ w : Widget, w.boundOnly.toJson = w.toJson
  | ⟨type, id, children, styleId, events, properties⟩ => by
    rw [boundOnly, toJson_eq, toJson_eq, isEmpty_boundOnlyAll, toJsonAll_boundOnlyAll children,
      openFields_bound]

theorem toJsonAll_boundOnlyAll : ∀ children : List Widget,
    toJsonAll (boundOnlyAll children) = toJsonAll children
  | [] => rfl
  | w :: rest => by
    rw [boundOnlyAll, toJsonAll, toJsonAll, toJson_boundOnly w, toJsonAll_boundOnlyAll rest]

end

end Widget

end GuardedUi
