import GuardedUi.Proofs.Emit.Source
import GuardedUi.Proofs.Name.Collision

/-!
# `Proofs/Emit/Wiring` — events, their handlers and their stubs

A binding of an event turns up twice in a document: the statements register a function for it, and
if the function is a stub, the document has to define it. Both come out of the walk that builds the
tree, in different orders: stubs when a node is entered, registrations when it is left. This file
compares the walk with the plain lists of nodes:

> **The registrations are those of the bound events of the nodes, as the walk leaves them**
> (`wires_ofRoot`), **and the stubs are the names that the nodes ask for, each once**
> (`names_stubs_ofRoot`).

That two stubs are not the same function by accident is a matter of names. A stub is named for an
identifier and an event, and identifiers may themselves end like the names of events. But those have
no underscore, so the last underscore of a stub's name parts the two (`stubName_eq_iff`).
-/

set_option autoImplicit false

namespace GuardedUi

open Guard

/-! ## What a tree asks for -/

/-- A function that is registered for an event of the widget in a variable. -/
structure Wire where
  target : String
  code : String
  handler : String
  deriving DecidableEq, Repr

def Wire.line (wire : Wire) : String :=
  callLine "lv_obj_add_event_cb" [wire.target, wire.handler, wire.code, "NULL"]

namespace Widget

def boundEvents (w : Widget) : List Event :=
  Event.table.filter fun event => w.event event.property ≠ .none

def stubEvents (w : Widget) : List Event :=
  Event.table.filter fun event => w.event event.property = .stub

/-- The function that handles a bound event: the user's, or the stub. -/
def handlerFor (w : Widget) (identifier : String) (event : Event) : String :=
  match w.event event.property with
  | .handler name => Name.symbol name
  | _ => Event.stubName identifier event.property

mutual

/-- The nodes of the tree at some indices, every node behind those below it. -/
def finishedFrom (indices : List Nat) : Widget → List TreeNode
  | ⟨type, id, children, styleId, events, properties⟩ =>
    finishedAllFrom indices 0 children ++
      [⟨indices, ⟨type, id, children, styleId, events, properties⟩⟩]

def finishedAllFrom (indices : List Nat) (index : Nat) : List Widget → List TreeNode
  | [] => []
  | w :: rest => finishedFrom (indices ++ [index]) w ++ finishedAllFrom indices (index + 1) rest

end

mutual

theorem perm_finishedFrom (indices : List Nat) :
    ∀ w : Widget, (w.finishedFrom indices).Perm (w.nodesFrom indices)
  | ⟨type, id, children, styleId, events, properties⟩ => by
    rw [finishedFrom, nodesFrom]
    exact (List.perm_append_singleton _ _).trans
      ((perm_finishedAllFrom indices 0 children).cons _)

theorem perm_finishedAllFrom (indices : List Nat) (index : Nat) :
    ∀ children : List Widget,
      (finishedAllFrom indices index children).Perm (nodesAllFrom indices index children)
  | [] => List.Perm.refl _
  | w :: rest => by
    rw [finishedAllFrom, nodesAllFrom]
    exact (perm_finishedFrom _ w).append (perm_finishedAllFrom indices (index + 1) rest)

end

end Widget

namespace TreeNode

def wires (identifiers : Name.Identifiers) (node : TreeNode) : List Wire :=
  node.widget.boundEvents.map fun event =>
    ⟨Name.widgetVariable (node.identifier identifiers), event.code,
      node.widget.handlerFor (node.identifier identifiers) event⟩

def registrations (identifiers : Name.Identifiers) (node : TreeNode) : List Registration :=
  Registration.ofWidget node.widget (node.identifier identifiers)

def stubNames (identifiers : Name.Identifiers) (node : TreeNode) : List String :=
  node.widget.stubEvents.map fun event =>
    Event.stubName (node.identifier identifiers) event.property

end TreeNode

namespace Layout

def finished (layout : Layout) : List TreeNode :=
  match layout.root with
  | none => []
  | some root => root.finishedFrom []

def wires (layout : Layout) (node : TreeNode) : List Wire :=
  node.wires (Name.assign layout.root)

/-- The stubs that the nodes ask for, in pre-order. -/
def wantedStubs (layout : Layout) : List String :=
  layout.nodes.flatMap (TreeNode.stubNames (Name.assign layout.root))

theorem perm_finished (layout : Layout) : layout.finished.Perm layout.nodes := by
  rw [finished, nodes]
  cases layout.root with
  | none => exact List.Perm.refl _
  | some root => exact root.perm_finishedFrom []

end Layout

/-! ## Registrations of one node -/

namespace Registration

theorem wires_ofWidget (w : Widget) (identifier target : String) :
    (ofWidget w identifier).map (fun r => Wire.mk target r.code r.handler) =
      w.boundEvents.map fun event => ⟨target, event.code, w.handlerFor identifier event⟩ := by
  rw [ofWidget, Widget.boundEvents]
  induction Event.table with
  | nil => rfl
  | cons event rest ih =>
    cases hbinding : w.event event.property <;>
      simpa [ofEvent?, hbinding, Widget.handlerFor] using ih

theorem stubs_ofWidget (w : Widget) (identifier : String) :
    ((ofWidget w identifier).filter isStub).map handler =
      w.stubEvents.map fun event => Event.stubName identifier event.property := by
  rw [ofWidget, Widget.stubEvents]
  induction Event.table with
  | nil => rfl
  | cons event rest ih =>
    cases hbinding : w.event event.property <;>
      simpa [ofEvent?, hbinding, isStub] using ih

end Registration

/-! ## The walk -/

def Statement.wire? : Statement → Option Wire
  | .addEvent target r => some ⟨target, r.code, r.handler⟩
  | _ => none

/-- The lines of statements that register a function say which one, and for what. -/
theorem map_line_wires (statements : List Statement) :
    (statements.filter fun s => s.wire?.isSome).map Statement.line =
      (statements.filterMap Statement.wire?).map Wire.line := by
  induction statements with
  | nil => rfl
  | cons s rest ih =>
    cases hwire : s.wire? with
    | none => simpa [hwire] using ih
    | some wire =>
      have hline : s.line = wire.line := by
        cases s with
        | addEvent target r => exact Option.some.inj hwire ▸ rfl
        | _ => cases hwire
      simpa [hwire, hline] using ih

namespace Construction

theorem filterMap_wire?_opening (sheet : StyleSheet) (target : String) (parent : Option String)
    (w : Widget) : (opening sheet target parent w).filterMap Statement.wire? = [] := by
  rw [List.filterMap_eq_nil_iff]
  intro s hs
  rcases List.mem_append.mp hs with hs | hs
  · rcases List.mem_cons.mp hs with rfl | hs
    · rfl
    · obtain ⟨id, -, rfl⟩ := exists_of_mem_styleOf hs
      rfl
  · obtain ⟨setter, -, rfl⟩ := List.mem_map.mp hs
    rfl

mutual

theorem wires_ofWidget {identifiers : Name.Identifiers} (sheet : StyleSheet)
    {indices : List Nat} (parent : Option String) (stubs : Stubs) :
    ∀ {w : Widget}, Name.Named identifiers (Name.pathOf indices) w →
      (ofWidget identifiers sheet (Name.pathOf indices) parent stubs w).statements.filterMap
        Statement.wire? = (w.finishedFrom indices).flatMap (TreeNode.wires identifiers)
  | ⟨type, id, children, styleId, events, properties⟩, hn => by
    rw [Name.Named] at hn
    obtain ⟨hpath, hchildren⟩ := hn
    rw [ofWidget, Widget.finishedFrom]
    cases hget : identifiers.get? (Name.pathOf indices) with
    | none => exact absurd hpath (Bag.get?_eq_none_iff.mp hget)
    | some identifier =>
      dsimp only
      rw [List.filterMap_append, List.filterMap_append, filterMap_wire?_opening, List.nil_append,
        wires_ofChildren sheet _ _ hchildren, List.flatMap_append, List.flatMap_singleton]
      -- The registrations of the node itself come last on both sides.
      refine congrArg _ ?_
      rw [List.filterMap_map, TreeNode.wires]
      have hname : TreeNode.identifier identifiers
          ⟨indices, ⟨type, id, children, styleId, events, properties⟩⟩ = identifier :=
        TreeNode.identifier_eq hget
      rw [hname]
      exact (List.filterMap_eq_map (f := fun r : Registration => Wire.mk _ r.code r.handler)) ▸
        Registration.wires_ofWidget _ identifier (Name.widgetVariable identifier)

theorem wires_ofChildren {identifiers : Name.Identifiers} (sheet : StyleSheet)
    {indices : List Nat} (parent : String) {index : Nat} (stubs : Stubs) :
    ∀ {children : List Widget}, Name.NamedAll identifiers (Name.pathOf indices) index children →
      (ofChildren identifiers sheet (Name.pathOf indices) parent index stubs
        children).statements.filterMap Statement.wire? =
        (Widget.finishedAllFrom indices index children).flatMap (TreeNode.wires identifiers)
  | [], _ => by rw [ofChildren, Widget.finishedAllFrom]; rfl
  | w :: rest, hn => by
    rw [Name.NamedAll, ← Name.pathOf_concat] at hn
    rw [ofChildren, Widget.finishedAllFrom, List.filterMap_append, List.flatMap_append,
      ← Name.pathOf_concat, wires_ofWidget sheet _ _ hn.1, wires_ofChildren sheet _ _ hn.2]

end

/-- **The registrations are those of the bound events of the nodes.** -/
theorem wires_ofRoot (layout : Layout) (sheet : StyleSheet) :
    (ofRoot (Name.assign layout.root) sheet layout.root).statements.filterMap Statement.wire? =
      layout.finished.flatMap layout.wires := by
  rw [show layout.wires = TreeNode.wires (Name.assign layout.root) from rfl, Layout.finished]
  cases layout.root with
  | none => rfl
  | some root =>
    have hnamed : Name.Named (Name.assign (some root)) (Name.pathOf []) root :=
      Name.named_assign root
    exact wires_ofWidget sheet none .empty hnamed

theorem insertAll_append (stubs : Stubs) (a b : List Registration) :
    stubs.insertAll (a ++ b) = (stubs.insertAll a).insertAll b :=
  List.foldl_append

mutual

theorem stubs_ofWidget {identifiers : Name.Identifiers} (sheet : StyleSheet)
    {indices : List Nat} (parent : Option String) (stubs : Stubs) :
    ∀ {w : Widget}, Name.Named identifiers (Name.pathOf indices) w →
      (ofWidget identifiers sheet (Name.pathOf indices) parent stubs w).stubs =
        stubs.insertAll ((w.nodesFrom indices).flatMap (TreeNode.registrations identifiers))
  | ⟨type, id, children, styleId, events, properties⟩, hn => by
    rw [Name.Named] at hn
    obtain ⟨hpath, hchildren⟩ := hn
    rw [ofWidget, Widget.nodesFrom]
    cases hget : identifiers.get? (Name.pathOf indices) with
    | none => exact absurd hpath (Bag.get?_eq_none_iff.mp hget)
    | some identifier =>
      -- The stubs of the node itself are recorded before those of its children.
      dsimp only
      rw [stubs_ofChildren sheet _ _ hchildren, List.flatMap_cons, insertAll_append,
        TreeNode.registrations]
      have hname : TreeNode.identifier identifiers
          ⟨indices, ⟨type, id, children, styleId, events, properties⟩⟩ = identifier :=
        TreeNode.identifier_eq hget
      rw [hname]
      rfl

theorem stubs_ofChildren {identifiers : Name.Identifiers} (sheet : StyleSheet)
    {indices : List Nat} (parent : String) {index : Nat} (stubs : Stubs) :
    ∀ {children : List Widget}, Name.NamedAll identifiers (Name.pathOf indices) index children →
      (ofChildren identifiers sheet (Name.pathOf indices) parent index stubs children).stubs =
        stubs.insertAll ((Widget.nodesAllFrom indices index children).flatMap
          (TreeNode.registrations identifiers))
  | [], _ => by rw [ofChildren, Widget.nodesAllFrom]; rfl
  | w :: rest, hn => by
    rw [Name.NamedAll, ← Name.pathOf_concat] at hn
    rw [ofChildren, Widget.nodesAllFrom, List.flatMap_append, insertAll_append,
      ← Name.pathOf_concat, stubs_ofWidget sheet _ _ hn.1, stubs_ofChildren sheet _ _ hn.2]

end

/-- **The stubs are those that the nodes ask for, each once.** -/
theorem names_stubs_ofRoot (layout : Layout) (sheet : StyleSheet) :
    (ofRoot (Name.assign layout.root) sheet layout.root).stubs.names =
      firsts layout.wantedStubs := by
  rw [Layout.wantedStubs, Layout.nodes]
  cases layout.root with
  | none => rfl
  | some root =>
    have hnamed : Name.Named (Name.assign (some root)) (Name.pathOf []) root :=
      Name.named_assign root
    have hstubs := stubs_ofWidget sheet none .empty hnamed
    dsimp only
    rw [ofRoot, show Name.rootPath = Name.pathOf [] from rfl, hstubs, Stubs.names_insertAll,
      List.filter_flatMap, List.map_flatMap]
    refine congrArg firsts (List.flatMap_congr fun node _ => ?_)
    exact Registration.stubs_ofWidget node.widget _

end Construction

/-! ## Names of stubs -/

theorem underscore_not_mem_nameSuffix :
    ∀ event ∈ Event.table, '_' ∉ (Event.nameSuffix event.property).toList := by
  decide

/-- **The name of a stub says whose it is and for which event.** -/
theorem stubName_eq_iff {a b : String} {e f : Event} (he : e ∈ Event.table)
    (hf : f ∈ Event.table) :
    Event.stubName a e.property = Event.stubName b f.property ↔
      e.property = f.property ∧ a = b := by
  have hdistinct : ∀ e ∈ Event.table, ∀ f ∈ Event.table,
      Event.nameSuffix e.property = Event.nameSuffix f.property → e.property = f.property := by
    decide
  constructor
  · intro h
    -- The identifier may have underscores, so it is the last one that counts.
    have h := congrArg String.toList h
    simp only [Event.stubName, String.toList_append, List.append_assoc,
      show "_".toList = ['_'] from rfl, List.singleton_append] at h
    obtain ⟨hname, hsuffix⟩ := eq_of_last (underscore_not_mem_nameSuffix e he)
      (underscore_not_mem_nameSuffix f hf) (List.append_cancel_left h)
    exact ⟨hdistinct e he f hf (String.toList_injective hsuffix), String.toList_injective hname⟩
  · rintro ⟨hproperty, rfl⟩
    rw [hproperty]

/-! ## The section of the stubs -/

def stubLine (name : String) : String :=
  "static void " ++ name ++ "(lv_event_t * e) \x7b"

/-- The lines of a stub behind the first one. -/
def stubRest (name : String) : List String :=
  [indentation ++ "lv_obj_t * obj = lv_event_get_target(e);", indentation ++ "LV_UNUSED(obj);"] ++
    regionText name ++ SourceSections.stubEnd

theorem stubText_eq (name : String) :
    SourceSections.stubText name = stubLine name :: stubRest name :=
  rfl

/-- Whether a line begins at the margin with a letter, as definitions do. Directives, comments,
braces and the lines inside functions do not. -/
def startsDefinition (line : String) : Bool :=
  line.toList.head?.any Char.isAlpha

def IsIndented (line : String) : Prop :=
  ∃ rest, line = indentation ++ rest

theorem IsIndented.startsDefinition_eq {line : String} (h : IsIndented line) :
    startsDefinition line = false := by
  obtain ⟨rest, rfl⟩ := h
  rw [startsDefinition, String.toList_append]
  rfl

theorem startsDefinition_stubLine (name : String) : startsDefinition (stubLine name) = true := by
  rw [startsDefinition, stubLine, String.toList_append, String.toList_append]
  rfl

theorem startsDefinition_of_mem_stubRest {name line : String} (h : line ∈ stubRest name) :
    startsDefinition line = false := by
  have hend : ∀ line ∈ SourceSections.stubEnd, startsDefinition line = false := by decide
  rcases List.mem_append.mp h with h | h
  · simp only [regionText, List.cons_append, List.nil_append, List.mem_cons, List.not_mem_nil,
      or_false] at h
    rcases h with rfl | rfl | rfl | rfl <;> exact IsIndented.startsDefinition_eq ⟨_, rfl⟩
  · exact hend line h

theorem stubLine_not_mem_stubRest (name other : String) : stubLine name ∉ stubRest other := by
  intro hm
  exact absurd ((startsDefinition_stubLine name).symm.trans (startsDefinition_of_mem_stubRest hm))
    (by decide)

theorem stubLine_injective {a b : String} (h : stubLine a = stubLine b) : a = b :=
  (String.append_right_inj _).mp ((String.append_left_inj _).mp h)

/-- If every item brings what is counted exactly when it is `name`, the items bring it as often as
`name` is among them. -/
theorem count_flatMap_eq {β : Type} [BEq β] {f : String → List β} {x : β} {name : String}
    (h : ∀ item, (f item).count x = if item = name then 1 else 0) (items : List String) :
    (items.flatMap f).count x = items.count name := by
  induction items with
  | nil => rfl
  | cons item rest ih =>
    rw [List.flatMap_cons, List.count_append, h, ih, List.count_cons]
    by_cases hitem : item = name
    · simp [hitem, Nat.add_comm]
    · simp [hitem]

theorem count_stubLine (items : List String) (name : String) :
    (items.flatMap SourceSections.stubText).count (stubLine name) = items.count name := by
  refine count_flatMap_eq (fun item => ?_) items
  rw [stubText_eq, List.count_cons, List.count_eq_zero.mpr (stubLine_not_mem_stubRest name item)]
  by_cases hitem : item = name
  · simp [hitem]
  · have hline : stubLine item ≠ stubLine name := fun h => hitem (stubLine_injective h)
    simp [hitem, hline]

theorem count_regionKeys (kind : Kind) (items : List String) (name : String) :
    (regionKeys items).count (kind, name) = items.count name := by
  have hone : ∀ item : String, [(Kind.opening, item), (Kind.closing, item)].count (kind, name) =
      if item = name then 1 else 0 := by
    intro item
    by_cases hitem : item = name
    · cases kind <;> simp [hitem]
    · cases kind <;> simp [hitem]
  exact count_flatMap_eq hone items

/-! ## Documents -/

/-- The statements that build the tree of a layout, in the order of the document. -/
def Layout.statements (layout : Layout) (sheet : StyleSheet) : List Statement :=
  (Emission.sections .standard layout sheet).construction.getD []

theorem Layout.statements_eq (layout : Layout) (sheet : StyleSheet) :
    layout.statements sheet =
      (Construction.ofRoot (Name.assign layout.root) sheet layout.root).statements := by
  rw [statements, Emission.sections]
  cases layout.root <;> rfl

/-- **How events are wired.** The registrations of a document are those of the bound events of the
nodes, in the order of the table at each node. Its stubs are the names that the nodes ask for, each
once and in the order of their first occurrences, and each has one definition with one region. Two
stubs have one name only for one event of nodes with one identifier, which different nodes have only
if the user gave both of them ids with that identifier. -/
theorem events_wired (layout : Layout) (sheet : StyleSheet) :
    ∃ emission, Emission.emit .standard layout sheet = .ok emission ∧
      emission.source.toList = linesText
        ((Emission.sections .standard layout sheet).front ++
          emission.stubs.flatMap SourceSections.stubText ++
          (Emission.sections .standard layout sheet).initializerLines ++
          regionText initRegion ++ SourceSections.ending) ∧
      (layout.statements sheet).filterMap Statement.wire? = layout.finished.flatMap layout.wires ∧
      ((layout.statements sheet).filter fun s => s.wire?.isSome).map Statement.line =
        (layout.finished.flatMap layout.wires).map Wire.line ∧
      layout.finished.Perm layout.nodes ∧
      (∀ node ∈ layout.nodes,
        (Name.assign layout.root).get? node.path = some (layout.identifierOf node)) ∧
      (∀ name, name ∈ emission.stubs ↔ name ∈ layout.wantedStubs) ∧
      InFirstOrder layout.wantedStubs emission.stubs ∧
      (∀ name ∈ layout.wantedStubs,
        emission.stubs.count name = 1 ∧
        (emission.stubs.flatMap SourceSections.stubText).count (stubLine name) = 1 ∧
        (scan (linesText (SourceSections.stubText name))).map Marker.key =
          [(.opening, name), (.closing, name)] ∧
        ∀ kind, ((scan (linesText (emission.stubs.flatMap SourceSections.stubText))).map
          Marker.key).count (kind, name) = 1) ∧
      (∀ a ∈ layout.nodes, ∀ e ∈ a.widget.stubEvents,
        ∀ b ∈ layout.nodes, ∀ f ∈ b.widget.stubEvents,
          Event.stubName (layout.identifierOf a) e.property =
              Event.stubName (layout.identifierOf b) f.property ↔
            e.property = f.property ∧ layout.identifierOf a = layout.identifierOf b) ∧
      layout.nodes.Pairwise fun a b => layout.identifierOf a = layout.identifierOf b →
        ∃ idA idB, a.userId? = some idA ∧ b.userId? = some idB ∧
          Name.identifier idA = Name.identifier idB := by
  obtain ⟨emission, hemit, hstubs, hsource⟩ := Emission.exists_emission layout sheet
  have htame := Emission.tame_sections layout sheet
  have hnames : emission.stubs = firsts layout.wantedStubs :=
    hstubs.trans (Construction.names_stubs_ofRoot layout sheet)
  have hwires : (layout.statements sheet).filterMap Statement.wire? =
      layout.finished.flatMap layout.wires := by
    rw [layout.statements_eq]
    exact Construction.wires_ofRoot layout sheet
  refine ⟨emission, hemit, ?_, hwires, ?_, layout.perm_finished,
    fun node hm => Layout.get?_eq_some_identifierOf hm, fun name => ?_, ?_, fun name hname => ?_,
    ?_, ?_⟩
  · rw [hsource, SourceSections.text_outline, SourceSections.allLines, hstubs]
  · rw [map_line_wires, hwires]
  · rw [hnames, mem_firsts]
  · rw [hnames]
    exact inFirstOrder_firsts _
  · have hmem : name ∈ emission.stubs := by
      rw [hnames, mem_firsts]
      exact hname
    have hcount : emission.stubs.count name = 1 := by
      rw [hnames] at hmem ⊢
      exact List.count_eq_one_of_mem (inFirstOrder_firsts _).nodup hmem
    have hword : IsWord name := (htame.stubs name (hstubs ▸ hmem)).1
    refine ⟨hcount, (count_stubLine _ _).trans hcount, (SourceSections.keys_stubText hword).keys,
      fun kind => ?_⟩
    have hkeys := htame.keys_stubs.keys
    rw [← hstubs] at hkeys
    exact (congrArg (List.count (kind, name)) hkeys).trans ((count_regionKeys _ _ _).trans hcount)
  · intro a _ e he b _ f hf
    exact stubName_eq_iff (List.mem_of_mem_filter he) (List.mem_of_mem_filter hf)
  · rw [List.pairwise_iff_forall_sublist]
    intro a b hab heq
    exact Layout.userId?_of_identifierOf_eq hab heq

end GuardedUi
