import GuardedUi.Proofs.Emit.Wiring

/-!
# `Proofs/Emit/Order` — when the statements of a node come

The walk that builds a tree makes statements when it enters a node and when it leaves it, and the
nodes below come in between. Here each statement is put together with the node that it belongs to
(`Step`), which its text does not tell: two nodes may have one variable.

> **The statements come in a valid order** (`construction_ordered`). Every node is created once,
> inside its parent and before all else that is done with it. Whatever is done with a node when there
> already are statements of nodes below it is to register its functions, and when one is registered,
> nothing is left to be done below.

The order is a matter of each two steps (`InOrder`), so one induction over the tree shows all of it.
-/

set_option autoImplicit false

namespace GuardedUi

/-! ## Stages -/

/-- What a statement does with its widget. -/
inductive Stage where
  | creation
  | setting
  | registration
  deriving DecidableEq, Repr

def Statement.stage : Statement → Stage
  | .create .. => .creation
  | .addStyle .. => .setting
  | .set .. => .setting
  | .addEvent .. => .registration

namespace Construction

variable {sheet : StyleSheet} {target : String} {parent : Option String} {w : Widget}

/-- The style of a widget and its settings. -/
def setup (sheet : StyleSheet) (target : String) (w : Widget) : List Statement :=
  styleOf sheet target w.styleId ++
    (Setter.ofWidget w (WidgetKind.ofType w.type)).map (.set target)

/-- Before the first child a widget is created, and then only set up. -/
theorem opening_eq_create_cons : opening sheet target parent w =
    .create target (WidgetKind.ofType w.type) parent :: setup sheet target w :=
  rfl

theorem stage_of_mem_setup {s : Statement} (h : s ∈ setup sheet target w) :
    s.stage = .setting := by
  rcases List.mem_append.mp h with h | h
  · obtain ⟨id, -, rfl⟩ := exists_of_mem_styleOf h
    rfl
  · obtain ⟨setter, -, rfl⟩ := List.mem_map.mp h
    rfl

end Construction

/-! ## Steps -/

/-- A statement, with the node that it belongs to. -/
structure Step where
  node : TreeNode
  statement : Statement

namespace TreeNode

/-- One node is somewhere below the other. -/
def IsAbove (a b : TreeNode) : Prop :=
  ∃ index rest, b.indices = a.indices ++ index :: rest

/-- One node is a child of the other. -/
def IsParentOf (a b : TreeNode) : Prop :=
  ∃ index, b.indices = a.indices ++ [index] ∧ a.widget.children[index]? = some b.widget

/-- The variable of the node at some indices. -/
def variableAt (identifiers : Name.Identifiers) (indices : List Nat) : String :=
  Name.widgetVariable ((identifiers.get? (Name.pathOf indices)).getD "")

/-- The variable of the node above the one at some indices. -/
def parentAt? (identifiers : Name.Identifiers) (indices : List Nat) : Option String :=
  if indices = [] then none else some (variableAt identifiers indices.dropLast)

@[simp] theorem parentAt?_nil (identifiers : Name.Identifiers) : parentAt? identifiers [] = none :=
  rfl

@[simp] theorem parentAt?_concat (identifiers : Name.Identifiers) (indices : List Nat)
    (index : Nat) :
    parentAt? identifiers (indices ++ [index]) = some (variableAt identifiers indices) := by
  rw [parentAt?, if_neg (by simp), List.dropLast_concat]

/-- What is done when a node is entered. -/
def entering (identifiers : Name.Identifiers) (sheet : StyleSheet) (node : TreeNode) :
    List Statement :=
  Construction.opening sheet (variableAt identifiers node.indices)
    (parentAt? identifiers node.indices) node.widget

/-- What is done when a node is left. -/
def leaving (identifiers : Name.Identifiers) (node : TreeNode) : List Statement :=
  (node.registrations identifiers).map (.addEvent (variableAt identifiers node.indices))

theorem stage_of_mem_entering {identifiers : Name.Identifiers} {sheet : StyleSheet}
    {node : TreeNode} {s : Statement} (h : s ∈ node.entering identifiers sheet) :
    s.stage ≠ .registration := by
  rw [entering, Construction.opening_eq_create_cons] at h
  rcases List.mem_cons.mp h with rfl | h
  · exact Stage.noConfusion
  · rw [Construction.stage_of_mem_setup h]
    exact Stage.noConfusion

theorem stage_of_mem_leaving {identifiers : Name.Identifiers} {node : TreeNode} {s : Statement}
    (h : s ∈ node.leaving identifiers) : s.stage = .registration := by
  obtain ⟨r, -, rfl⟩ := List.mem_map.mp h
  rfl

variable (identifiers : Name.Identifiers) (sheet : StyleSheet) (node : TreeNode)

theorem filter_creation_entering :
    ((node.entering identifiers sheet).filter fun s => s.stage = .creation) =
      [.create (variableAt identifiers node.indices) (WidgetKind.ofType node.widget.type)
        (parentAt? identifiers node.indices)] := by
  rw [entering, Construction.opening_eq_create_cons, List.filter_cons_of_pos (by rfl),
    List.filter_eq_nil_iff.mpr]
  intro s hs
  rw [Construction.stage_of_mem_setup hs]
  exact of_decide_eq_true.mt (by decide)

theorem filter_creation_leaving :
    ((node.leaving identifiers).filter fun s => s.stage = .creation) = [] := by
  rw [List.filter_eq_nil_iff]
  intro s hs
  rw [stage_of_mem_leaving hs]
  exact of_decide_eq_true.mt (by decide)

end TreeNode

namespace Widget

variable (identifiers : Name.Identifiers) (sheet : StyleSheet)

mutual

/-- All that is done with the nodes of the tree at some indices. -/
def stepsFrom (indices : List Nat) : Widget → List Step
  | ⟨type, id, children, styleId, events, properties⟩ =>
    let node : TreeNode := ⟨indices, ⟨type, id, children, styleId, events, properties⟩⟩
    (node.entering identifiers sheet).map (Step.mk node) ++ stepsAllFrom indices 0 children ++
      (node.leaving identifiers).map (Step.mk node)

def stepsAllFrom (indices : List Nat) (index : Nat) : List Widget → List Step
  | [] => []
  | w :: rest => stepsFrom (indices ++ [index]) w ++ stepsAllFrom indices (index + 1) rest

end

end Widget

/-- All that is done to build the tree of a layout. -/
def Layout.steps (layout : Layout) (sheet : StyleSheet) : List Step :=
  match layout.root with
  | none => []
  | some root => root.stepsFrom (Name.assign layout.root) sheet []

/-! ## The walk makes the statements of the steps -/

namespace Construction

mutual

theorem statements_ofWidget {identifiers : Name.Identifiers} (sheet : StyleSheet)
    {indices : List Nat} (stubs : Stubs) :
    ∀ {w : Widget}, Name.Named identifiers (Name.pathOf indices) w →
      (ofWidget identifiers sheet (Name.pathOf indices) (TreeNode.parentAt? identifiers indices)
        stubs w).statements = (w.stepsFrom identifiers sheet indices).map Step.statement
  | ⟨type, id, children, styleId, events, properties⟩, hn => by
    rw [Name.Named] at hn
    obtain ⟨hpath, hchildren⟩ := hn
    rw [ofWidget, Widget.stepsFrom]
    cases hget : identifiers.get? (Name.pathOf indices) with
    | none => exact absurd hpath (Bag.get?_eq_none_iff.mp hget)
    | some identifier =>
      have hvariable : Name.widgetVariable identifier = TreeNode.variableAt identifiers indices := by
        rw [TreeNode.variableAt, hget, Option.getD_some]
      have hname : TreeNode.identifier identifiers
          ⟨indices, ⟨type, id, children, styleId, events, properties⟩⟩ = identifier :=
        TreeNode.identifier_eq hget
      dsimp only
      rw [hvariable, statements_ofChildren sheet _ hchildren, List.map_append, List.map_append,
        List.map_map, List.map_map, TreeNode.entering, TreeNode.leaving, TreeNode.registrations,
        hname]
      exact congr (congrArg _ (congrArg (· ++ _) (List.map_id _).symm)) (List.map_id _).symm

theorem statements_ofChildren {identifiers : Name.Identifiers} (sheet : StyleSheet)
    {indices : List Nat} {index : Nat} (stubs : Stubs) :
    ∀ {children : List Widget}, Name.NamedAll identifiers (Name.pathOf indices) index children →
      (ofChildren identifiers sheet (Name.pathOf indices) (TreeNode.variableAt identifiers indices)
        index stubs children).statements =
        (Widget.stepsAllFrom identifiers sheet indices index children).map Step.statement
  | [], _ => by rw [ofChildren, Widget.stepsAllFrom]; rfl
  | w :: rest, hn => by
    rw [Name.NamedAll, ← Name.pathOf_concat] at hn
    have hfirst := statements_ofWidget sheet stubs hn.1
    rw [TreeNode.parentAt?_concat] at hfirst
    rw [ofChildren, Widget.stepsAllFrom, List.map_append, ← Name.pathOf_concat, hfirst,
      statements_ofChildren sheet _ hn.2]

end

/-- **The statements are those of the steps.** -/
theorem statements_ofRoot (layout : Layout) (sheet : StyleSheet) :
    layout.statements sheet = (layout.steps sheet).map Step.statement := by
  rw [layout.statements_eq, Layout.steps]
  cases layout.root with
  | none => rfl
  | some root =>
    have hnamed : Name.Named (Name.assign (some root)) (Name.pathOf []) root :=
      Name.named_assign root
    exact statements_ofWidget sheet .empty hnamed

end Construction

/-! ## What is done with one node -/

namespace TreeNode

theorem IsAbove.ne {a b : TreeNode} (h : a.IsAbove b) : a.indices ≠ b.indices := by
  obtain ⟨index, rest, heq⟩ := h
  intro hsame
  have hlength := congrArg List.length (hsame.trans heq)
  simp at hlength

theorem IsAbove.asymm {a b : TreeNode} (h : a.IsAbove b) : ¬ b.IsAbove a := by
  obtain ⟨index, rest, hb⟩ := h
  rintro ⟨other, more, ha⟩
  have hlength := congrArg List.length ha
  simp only [hb, List.length_append, List.length_cons] at hlength
  omega

theorem isAbove_of_mem_nodesAllFrom {indices : List Nat} {index : Nat} {children : List Widget}
    {node : TreeNode} (w : Widget) (h : node ∈ Widget.nodesAllFrom indices index children) :
    IsAbove ⟨indices, w⟩ node := by
  obtain ⟨later, -, rest, heq⟩ := Widget.isPrefix_of_mem_nodesAllFrom indices index children node h
  exact ⟨later, rest, by rw [← heq, List.append_assoc]; rfl⟩

end TreeNode

namespace Widget

variable {identifiers : Name.Identifiers} {sheet : StyleSheet}

mutual

theorem mem_nodesFrom_of_mem_stepsFrom {indices : List Nat} :
    ∀ {w : Widget} {step : Step}, step ∈ w.stepsFrom identifiers sheet indices →
      step.node ∈ w.nodesFrom indices
  | ⟨type, id, children, styleId, events, properties⟩, step, h => by
    rw [stepsFrom] at h
    rw [nodesFrom]
    rcases List.mem_append.mp h with h | h
    · rcases List.mem_append.mp h with h | h
      · obtain ⟨s, -, rfl⟩ := List.mem_map.mp h
        exact List.mem_cons_self
      · exact List.mem_cons_of_mem _ (mem_nodesAllFrom_of_mem_stepsAllFrom h)
    · obtain ⟨s, -, rfl⟩ := List.mem_map.mp h
      exact List.mem_cons_self

theorem mem_nodesAllFrom_of_mem_stepsAllFrom {indices : List Nat} {index : Nat} :
    ∀ {children : List Widget} {step : Step},
      step ∈ stepsAllFrom identifiers sheet indices index children →
      step.node ∈ nodesAllFrom indices index children
  | [], step, h => by simp [stepsAllFrom] at h
  | w :: rest, step, h => by
    rw [stepsAllFrom] at h
    rw [nodesAllFrom]
    rcases List.mem_append.mp h with h | h
    · exact List.mem_append_left _ (mem_nodesFrom_of_mem_stepsFrom h)
    · exact List.mem_append_right _ (mem_nodesAllFrom_of_mem_stepsAllFrom h)

end

mutual

/-- **Every node is created once**, in pre-order. -/
theorem map_node_creations (indices : List Nat) :
    ∀ w : Widget, ((w.stepsFrom identifiers sheet indices).filter fun step =>
      step.statement.stage = .creation).map Step.node = w.nodesFrom indices
  | ⟨type, id, children, styleId, events, properties⟩ => by
    rw [stepsFrom, nodesFrom, List.filter_append, List.filter_append, List.map_append,
      List.map_append, map_node_creations_all indices 0 children, List.filter_map, List.filter_map]
    simp only [Function.comp_def, TreeNode.filter_creation_entering,
      TreeNode.filter_creation_leaving, List.map_cons, List.map_nil, List.append_nil,
      List.singleton_append]

theorem map_node_creations_all (indices : List Nat) (index : Nat) :
    ∀ children : List Widget, ((stepsAllFrom identifiers sheet indices index children).filter
      fun step => step.statement.stage = .creation).map Step.node =
        nodesAllFrom indices index children
  | [] => by rw [stepsAllFrom, nodesAllFrom]; rfl
  | w :: rest => by
    rw [stepsAllFrom, nodesAllFrom, List.filter_append, List.map_append,
      map_node_creations _ w, map_node_creations_all indices (index + 1) rest]

end

theorem filter_stepsFrom_eq_nil {indices at_ : List Nat} {w : Widget}
    (h : ∀ node ∈ w.nodesFrom indices, node.indices ≠ at_) :
    ((w.stepsFrom identifiers sheet indices).filter fun step => step.node.indices = at_) = [] := by
  rw [List.filter_eq_nil_iff]
  intro step hstep
  simpa using h step.node (mem_nodesFrom_of_mem_stepsFrom hstep)

theorem filter_stepsAllFrom_eq_nil {indices at_ : List Nat} {index : Nat} {children : List Widget}
    (h : ∀ node ∈ nodesAllFrom indices index children, node.indices ≠ at_) :
    ((stepsAllFrom identifiers sheet indices index children).filter fun step =>
      step.node.indices = at_) = [] := by
  rw [List.filter_eq_nil_iff]
  intro step hstep
  simpa using h step.node (mem_nodesAllFrom_of_mem_stepsAllFrom hstep)

/-- The steps of one node, all of which have the same indices. -/
theorem filter_map_mk (node : TreeNode) (statements : List Statement) (at_ : List Nat) :
    ((statements.map (Step.mk node)).filter fun step => step.node.indices = at_) =
      if node.indices = at_ then statements.map (Step.mk node) else [] := by
  split
  · rename_i h
    exact List.filter_eq_self.mpr fun step hstep => by
      obtain ⟨s, -, rfl⟩ := List.mem_map.mp hstep
      exact decide_eq_true h
  · rename_i h
    exact List.filter_eq_nil_iff.mpr fun step hstep => by
      obtain ⟨s, -, rfl⟩ := List.mem_map.mp hstep
      simpa using h

mutual

/-- **What is done with a node** is what is done when it is entered and when it is left. -/
theorem filter_stepsFrom (indices : List Nat) :
    ∀ {w : Widget} {node : TreeNode}, node ∈ w.nodesFrom indices →
      ((w.stepsFrom identifiers sheet indices).filter fun step =>
        step.node.indices = node.indices).map Step.statement =
        node.entering identifiers sheet ++ node.leaving identifiers
  | ⟨type, id, children, styleId, events, properties⟩, node, h => by
    rw [nodesFrom] at h
    rw [stepsFrom, List.filter_append, List.filter_append, filter_map_mk, filter_map_mk]
    rcases List.mem_cons.mp h with rfl | h
    · rw [if_pos rfl, if_pos rfl, filter_stepsAllFrom_eq_nil fun below hbelow heq =>
        (TreeNode.isAbove_of_mem_nodesAllFrom _ hbelow).ne heq.symm, List.append_nil,
        ← List.map_append, List.map_map]
      exact List.map_id _
    · have hne := (TreeNode.isAbove_of_mem_nodesAllFrom
        ⟨type, id, children, styleId, events, properties⟩ h).ne
      rw [if_neg hne, if_neg hne, List.nil_append, List.append_nil,
        filter_stepsAllFrom indices 0 h]

theorem filter_stepsAllFrom (indices : List Nat) (index : Nat) :
    ∀ {children : List Widget} {node : TreeNode}, node ∈ nodesAllFrom indices index children →
      ((stepsAllFrom identifiers sheet indices index children).filter fun step =>
        step.node.indices = node.indices).map Step.statement =
        node.entering identifiers sheet ++ node.leaving identifiers
  | [], node, h => by simp [nodesAllFrom] at h
  | w :: rest, node, h => by
    have hdistinct := pairwise_nodesAllFrom indices index (w :: rest)
    rw [nodesAllFrom] at h hdistinct
    obtain ⟨-, -, hapart⟩ := List.pairwise_append.mp hdistinct
    rw [stepsAllFrom, List.filter_append, List.map_append]
    rcases List.mem_append.mp h with h | h
    · rw [filter_stepsFrom _ h, filter_stepsAllFrom_eq_nil fun other ho heq =>
        hapart node h other ho heq.symm, List.map_nil, List.append_nil]
    · rw [filter_stepsFrom_eq_nil fun other ho heq => hapart other ho node h heq, List.map_nil,
        List.nil_append, filter_stepsAllFrom indices (index + 1) h]

end

mutual

/-- A node other than the root of a tree has its parent in the tree. -/
theorem exists_parent_nodesFrom (indices : List Nat) :
    ∀ {w : Widget} {node : TreeNode}, node ∈ w.nodesFrom indices →
      node = ⟨indices, w⟩ ∨ ∃ parent ∈ w.nodesFrom indices, parent.IsParentOf node
  | ⟨type, id, children, styleId, events, properties⟩, node, h => by
    rw [nodesFrom] at h ⊢
    rcases List.mem_cons.mp h with rfl | h
    · exact .inl rfl
    · rcases exists_parent_nodesAllFrom indices 0 h with ⟨k, hindices, hchild⟩ | ⟨parent, hm, hp⟩
      · refine .inr ⟨_, List.mem_cons_self, k, ?_, hchild⟩
        rw [hindices, Nat.zero_add]
      · exact .inr ⟨parent, List.mem_cons_of_mem _ hm, hp⟩

theorem exists_parent_nodesAllFrom (indices : List Nat) (index : Nat) :
    ∀ {children : List Widget} {node : TreeNode}, node ∈ nodesAllFrom indices index children →
      (∃ k : Nat, node.indices = indices ++ [index + k] ∧ children[k]? = some node.widget) ∨
        ∃ parent ∈ nodesAllFrom indices index children, parent.IsParentOf node
  | [], node, h => by simp [nodesAllFrom] at h
  | w :: rest, node, h => by
    rw [nodesAllFrom] at h ⊢
    rcases List.mem_append.mp h with h | h
    · rcases exists_parent_nodesFrom _ h with rfl | ⟨parent, hm, hp⟩
      · exact .inl ⟨0, rfl, rfl⟩
      · exact .inr ⟨parent, List.mem_append_left _ hm, hp⟩
    · rcases exists_parent_nodesAllFrom indices (index + 1) h with ⟨k, hindices, hchild⟩ |
        ⟨parent, hm, hp⟩
      · refine .inl ⟨k + 1, ?_, hchild⟩
        rw [hindices, Nat.add_assoc, Nat.add_comm 1 k]
      · exact .inr ⟨parent, List.mem_append_right _ hm, hp⟩

end

end Widget

/-! ## The order of the steps -/

/-- What holds of two steps of which the first is taken before the second. -/
structure InOrder (a b : Step) : Prop where
  /-- The first thing that is done with a node is to create it. -/
  created : a.node.indices = b.node.indices → b.statement.stage ≠ .creation
  /-- When something was done with a node, the nodes above are only registered for events. -/
  settled : b.node.IsAbove a.node → b.statement.stage = .registration
  /-- When a node was registered for an event, nothing is done with the nodes below. -/
  left : a.node.IsAbove b.node → a.statement.stage ≠ .registration

theorem InOrder.of_same_node {node : TreeNode} {s t : Statement} (h : t.stage ≠ .creation) :
    InOrder ⟨node, s⟩ ⟨node, t⟩ where
  created _ := h
  settled h := absurd rfl h.ne
  left h := absurd rfl h.ne

theorem TreeNode.pairwise_entering (identifiers : Name.Identifiers) (sheet : StyleSheet)
    (node : TreeNode) :
    ((node.entering identifiers sheet).map (Step.mk node)).Pairwise InOrder := by
  rw [entering, Construction.opening_eq_create_cons, List.pairwise_map]
  -- Only the first statement creates.
  have htail : ∀ {s t}, t ∈ Construction.setup sheet (variableAt identifiers node.indices)
      node.widget → InOrder ⟨node, s⟩ ⟨node, t⟩ := fun ht =>
    .of_same_node (by rw [Construction.stage_of_mem_setup ht]; decide)
  exact List.pairwise_cons.mpr
    ⟨fun t ht => htail ht, List.pairwise_of_forall_mem_list fun s _ t ht => htail ht⟩

theorem TreeNode.pairwise_leaving (identifiers : Name.Identifiers) (node : TreeNode) :
    ((node.leaving identifiers).map (Step.mk node)).Pairwise InOrder := by
  rw [List.pairwise_map]
  exact List.pairwise_of_forall_mem_list fun s _ t ht =>
    .of_same_node (by rw [stage_of_mem_leaving ht]; decide)

namespace Widget

variable {identifiers : Name.Identifiers} {sheet : StyleSheet}

/-- Nodes in the trees of two children are not above one another. -/
theorem not_isAbove_of_siblings {indices : List Nat} {index : Nat} {w : Widget}
    {rest : List Widget} {a b : TreeNode} (ha : a ∈ w.nodesFrom (indices ++ [index]))
    (hb : b ∈ nodesAllFrom indices (index + 1) rest) : ¬ a.IsAbove b ∧ ¬ b.IsAbove a := by
  obtain ⟨resta, ha⟩ := isPrefix_of_mem_nodesFrom _ w a ha
  obtain ⟨later, hle, restb, hb⟩ := isPrefix_of_mem_nodesAllFrom indices (index + 1) rest b hb
  -- The indices differ where those of the parent end.
  have hne : ∀ {x y : List Nat}, indices ++ [index] ++ x ≠ indices ++ [later] ++ y := by
    intro x y heq
    simp only [List.append_assoc, List.singleton_append, List.append_cancel_left_eq,
      List.cons.injEq] at heq
    omega
  constructor
  · rintro ⟨i, more, heq⟩
    rw [← ha, ← hb, List.append_assoc (indices ++ [index])] at heq
    exact hne heq.symm
  · rintro ⟨i, more, heq⟩
    rw [← ha, ← hb, List.append_assoc (indices ++ [later])] at heq
    exact hne heq

mutual

/-- **The steps are in order.** The children come between what is done with a node on entering it
and on leaving it, and the trees of two children have nothing to do with one another. -/
theorem pairwise_stepsFrom (indices : List Nat) :
    ∀ w : Widget, (w.stepsFrom identifiers sheet indices).Pairwise InOrder
  | ⟨type, id, children, styleId, events, properties⟩ => by
    have hbelow := fun {step} (h : step ∈ stepsAllFrom identifiers sheet indices 0 children) =>
      TreeNode.isAbove_of_mem_nodesAllFrom ⟨type, id, children, styleId, events, properties⟩
        (mem_nodesAllFrom_of_mem_stepsAllFrom h)
    rw [stepsFrom, List.pairwise_append, List.pairwise_append]
    refine ⟨⟨TreeNode.pairwise_entering _ _ _, pairwise_stepsAllFrom indices 0 children, ?_⟩,
      TreeNode.pairwise_leaving _ _, ?_⟩
    · intro a ha b hb
      obtain ⟨s, hs, rfl⟩ := List.mem_map.mp ha
      exact ⟨fun heq => absurd heq (hbelow hb).ne, fun h => absurd h (hbelow hb).asymm,
        fun _ => TreeNode.stage_of_mem_entering hs⟩
    · intro a ha b hb
      obtain ⟨t, ht, rfl⟩ := List.mem_map.mp hb
      have hstage := TreeNode.stage_of_mem_leaving ht
      rcases List.mem_append.mp ha with ha | ha
      · obtain ⟨s, hs, rfl⟩ := List.mem_map.mp ha
        exact .of_same_node (by rw [hstage]; decide)
      · exact ⟨fun _ => by rw [hstage]; decide, fun _ => hstage,
          fun h => absurd h (hbelow ha).asymm⟩

theorem pairwise_stepsAllFrom (indices : List Nat) (index : Nat) :
    ∀ children : List Widget,
      (stepsAllFrom identifiers sheet indices index children).Pairwise InOrder
  | [] => by rw [stepsAllFrom]; exact .nil
  | w :: rest => by
    have hdistinct := pairwise_nodesAllFrom indices index (w :: rest)
    rw [nodesAllFrom] at hdistinct
    rw [stepsAllFrom, List.pairwise_append]
    refine ⟨pairwise_stepsFrom _ w, pairwise_stepsAllFrom indices (index + 1) rest, ?_⟩
    intro a ha b hb
    have ha := mem_nodesFrom_of_mem_stepsFrom ha
    have hb := mem_nodesAllFrom_of_mem_stepsAllFrom hb
    obtain ⟨hab, hba⟩ := not_isAbove_of_siblings ha hb
    have hne := (List.pairwise_append.mp hdistinct).2.2 _ ha _ hb
    exact ⟨fun heq => absurd heq hne, fun h => absurd h hba, fun h => absurd h hab⟩

end

end Widget

/-! ## Layouts -/

namespace Layout

variable (layout : Layout) {node : TreeNode}

theorem root_or_exists_parent (hm : node ∈ layout.nodes) :
    node.indices = [] ∨ ∃ above ∈ layout.nodes, above.IsParentOf node := by
  rw [nodes] at hm ⊢
  cases hroot : layout.root with
  | none => simp [hroot] at hm
  | some root =>
    rw [hroot] at hm
    exact (Widget.exists_parent_nodesFrom [] hm).imp_left fun heq => by rw [heq]

theorem filter_steps (sheet : StyleSheet) (hm : node ∈ layout.nodes) :
    ((layout.steps sheet).filter fun step => step.node.indices = node.indices).map
        Step.statement =
      node.entering (Name.assign layout.root) sheet ++ node.leaving (Name.assign layout.root) := by
  rw [nodes] at hm
  rw [steps]
  cases hroot : layout.root with
  | none => simp [hroot] at hm
  | some root =>
    rw [hroot] at hm
    exact Widget.filter_stepsFrom [] hm

end Layout

/-- **The order of construction**, for any layout. Every statement belongs to a node, and the nodes
are created in pre-order, each one once. With a node is done what its widget asks for: it is created
inside its parent, gets its style and its settings, and is registered for its events. Any two steps
are in order, and no node is passed over for want of an identifier. -/
theorem construction_ordered (layout : Layout) (sheet : StyleSheet) :
    layout.statements sheet = (layout.steps sheet).map Step.statement ∧
      (∀ step ∈ layout.steps sheet, step.node ∈ layout.nodes) ∧
      ((layout.steps sheet).filter fun step => step.statement.stage = .creation).map Step.node =
        layout.nodes ∧
      (∀ node ∈ layout.nodes, ∃ target parent,
        (Name.assign layout.root).get? node.path = some (layout.identifierOf node) ∧
        target = Name.widgetVariable (layout.identifierOf node) ∧
        (node.indices = [] ∧ parent = none ∨ ∃ above ∈ layout.nodes, above.IsParentOf node ∧
          parent = some (Name.widgetVariable (layout.identifierOf above))) ∧
        (Statement.create target (WidgetKind.ofType node.widget.type) parent).line =
          indentation ++ target ++ " = " ++ (WidgetKind.ofType node.widget.type).constructor ++
            "(" ++ parent.getD "NULL" ++ ");" ∧
        ((layout.steps sheet).filter fun step => step.node.indices = node.indices).map
            Step.statement =
          .create target (WidgetKind.ofType node.widget.type) parent ::
            Construction.setup sheet target node.widget ++
            (Registration.ofWidget node.widget (layout.identifierOf node)).map
              (.addEvent target)) ∧
      (layout.steps sheet).Pairwise InOrder := by
  refine ⟨Construction.statements_ofRoot layout sheet, ?_, ?_, fun node hm => ?_, ?_⟩
  · rw [Layout.steps, Layout.nodes]
    cases layout.root with
    | none => exact fun step h => absurd h List.not_mem_nil
    | some root => exact fun step h => Widget.mem_nodesFrom_of_mem_stepsFrom h
  · rw [Layout.steps, Layout.nodes]
    cases layout.root with
    | none => rfl
    | some root => exact Widget.map_node_creations [] root
  · refine ⟨_, TreeNode.parentAt? (Name.assign layout.root) node.indices,
      Layout.get?_eq_some_identifierOf hm, rfl,
      (layout.root_or_exists_parent hm).imp ?_ ?_, rfl, ?_⟩
    · intro hroot
      exact ⟨hroot, by rw [hroot, TreeNode.parentAt?_nil]⟩
    · rintro ⟨above, habove, index, hindices, hchild⟩
      exact ⟨above, habove, ⟨index, hindices, hchild⟩,
        by rw [hindices, TreeNode.parentAt?_concat]; rfl⟩
    · rw [layout.filter_steps sheet hm, TreeNode.entering, TreeNode.leaving,
        Construction.opening_eq_create_cons]
      rfl
  · rw [Layout.steps]
    cases layout.root with
    | none => exact .nil
    | some root => exact Widget.pairwise_stepsFrom [] root

end GuardedUi
