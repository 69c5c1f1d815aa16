import GuardedUi.Proofs.Name.Naming

/-!
# `Proofs/Name/Entry` — the entries of the identifiers

The assignment puts one identifier after the other into a map from paths, and paths are flat texts.
Nothing is lost in this:

> **There is one entry for each node, in pre-order, under the path of the node** (`entries_of_nodes`).
> Looking up the path of some indices gives the identifier of the widget that these indices lead to,
> and looking up any other text gives nothing.

`Widget.at?` goes down a tree by indices. The nodes of a tree are what it reaches
(`Widget.mem_nodes_iff`), each once, in the order of the indices.
-/

set_option autoImplicit false

namespace GuardedUi

/-! ## Going down by indices -/

namespace Widget

/-- The widget that some indices lead to. -/
def at? (w : Widget) : List Nat → Option Widget
  | [] => some w
  | index :: rest => w.children[index]?.bind fun child => child.at? rest

mutual

theorem mem_nodesFrom_iff (indices : List Nat) {node : TreeNode} :
    ∀ w : Widget, node ∈ w.nodesFrom indices ↔
      ∃ below, node.indices = indices ++ below ∧ w.at? below = some node.widget
  | ⟨type, id, children, styleId, events, properties⟩ => by
    rw [nodesFrom, List.mem_cons, mem_nodesAllFrom_iff indices 0 children]
    constructor
    · rintro (rfl | ⟨index, below, hindices, hw⟩)
      · exact ⟨[], (List.append_nil indices).symm, rfl⟩
      · exact ⟨index :: below, by rw [hindices, Nat.zero_add], hw⟩
    · rintro ⟨below, hindices, hw⟩
      cases below with
      | nil =>
        obtain ⟨found, widget⟩ := node
        obtain rfl : found = indices := by simpa using hindices
        exact .inl (congrArg (TreeNode.mk found) (Option.some.inj hw).symm)
      | cons index below => exact .inr ⟨index, below, by rw [hindices, Nat.zero_add], hw⟩

theorem mem_nodesAllFrom_iff (indices : List Nat) (first : Nat) {node : TreeNode} :
    ∀ children : List Widget, node ∈ nodesAllFrom indices first children ↔
      ∃ index below, node.indices = indices ++ (first + index) :: below ∧
        (children[index]?.bind fun child => child.at? below) = some node.widget
  | [] => by simp [nodesAllFrom]
  | w :: rest => by
    rw [nodesAllFrom, List.mem_append, mem_nodesFrom_iff (indices ++ [first]) w,
      mem_nodesAllFrom_iff indices (first + 1) rest]
    constructor
    · rintro (⟨below, hindices, hw⟩ | ⟨index, below, hindices, hw⟩)
      · exact ⟨0, below, by simpa using hindices, hw⟩
      · exact ⟨index + 1, below, by rw [hindices, Nat.add_right_comm, Nat.add_assoc], hw⟩
    · rintro ⟨index, below, hindices, hw⟩
      cases index with
      | zero => exact .inl ⟨below, by simpa using hindices, hw⟩
      | succ index =>
        exact .inr ⟨index, below, by rw [hindices, Nat.add_right_comm, Nat.add_assoc], hw⟩

end

/-- **The nodes of a tree are what can be reached by indices.** -/
theorem mem_nodes_iff {root w : Widget} {indices : List Nat} :
    ⟨indices, w⟩ ∈ root.nodes ↔ root.at? indices = some w := by
  rw [nodes, mem_nodesFrom_iff]
  constructor
  · rintro ⟨below, rfl, hw⟩
    exact hw
  · intro hw
    exact ⟨indices, rfl, hw⟩

mutual

theorem length_nodesFrom (indices : List Nat) :
    ∀ w : Widget, (w.nodesFrom indices).length = w.count
  | ⟨type, id, children, styleId, events, properties⟩ => by
    rw [nodesFrom, count, List.length_cons, length_nodesAllFrom indices 0 children, Nat.add_comm]

theorem length_nodesAllFrom (indices : List Nat) (index : Nat) :
    ∀ children : List Widget, (nodesAllFrom indices index children).length = countAll children
  | [] => rfl
  | w :: rest => by
    rw [nodesAllFrom, countAll, List.length_append, length_nodesFrom (indices ++ [index]) w,
      length_nodesAllFrom indices (index + 1) rest]

end

theorem length_nodes (root : Widget) : root.nodes.length = root.count :=
  length_nodesFrom [] root

end Widget

namespace Name

/-! ## What a node is given -/

/-- The names that are taken when the node at some indices gets its identifier. -/
def takenAt (root : Widget) (indices : List Nat) : Taken :=
  (progressAfter root (root.nodes.takeWhile fun node => node.indices ≠ indices)).taken

/-- The identifier that the assignment gives a widget at some indices. -/
def nameAt (root : Widget) (indices : List Nat) (w : Widget) : String :=
  (give (takenAt root indices) ⟨indices, w⟩).1

section Entries

variable {root w : Widget} {indices : List Nat}

theorem takenAt_eq {before after : List TreeNode} {node : TreeNode}
    (h : root.nodes = before ++ node :: after) :
    takenAt root node.indices = (progressAfter root before).taken := by
  have hdistinct := root.pairwise_nodes
  rw [h] at hdistinct
  have hbefore : ∀ n ∈ before, decide (n.indices ≠ node.indices) = true := fun n hn =>
    decide_eq_true ((List.pairwise_append.mp hdistinct).2.2 n hn node List.mem_cons_self)
  rw [takenAt, h, List.takeWhile_append_of_pos hbefore, List.takeWhile_cons_of_neg (by simp),
    List.append_nil]

theorem get?_path {node : TreeNode} (hm : node ∈ root.nodes) :
    (assign (some root)).get? node.path = some (nameAt root node.indices node.widget) := by
  obtain ⟨before, after, hnodes⟩ := List.append_of_mem hm
  rw [get?_assign hnodes, nameAt, takenAt_eq hnodes]

theorem mem_names_assign_iff {path : String} :
    path ∈ (assign (some root)).names ↔
      ∃ indices w, root.at? indices = some w ∧ pathOf indices = path := by
  rw [names_assign, List.mem_map]
  constructor
  · rintro ⟨node, hm, rfl⟩
    exact ⟨node.indices, node.widget, Widget.mem_nodes_iff.mp hm, rfl⟩
  · rintro ⟨indices, w, hw, rfl⟩
    exact ⟨⟨indices, w⟩, Widget.mem_nodes_iff.mpr hw, rfl⟩

/-- Looking up a path is going down by its indices. -/
theorem get?_pathOf (root : Widget) (indices : List Nat) :
    (assign (some root)).get? (pathOf indices) = (root.at? indices).map (nameAt root indices) := by
  cases hw : root.at? indices with
  | some w =>
    have hget := get?_path (Widget.mem_nodes_iff.mpr hw)
    exact hget
  | none =>
    rw [Option.map_none, Bag.get?_eq_none_iff, mem_names_assign_iff]
    rintro ⟨found, w, hfound, hpath⟩
    rw [pathOf_injective hpath, hw] at hfound
    cases hfound

theorem get?_eq_none_iff {path : String} :
    (assign (some root)).get? path = none ↔
      ∀ indices, pathOf indices = path → root.at? indices = none := by
  rw [Bag.get?_eq_none_iff, mem_names_assign_iff]
  constructor
  · intro h indices hpath
    exact Option.eq_none_iff_forall_ne_some.mpr fun w hw => h ⟨indices, w, hw, hpath⟩
  · rintro h ⟨indices, w, hw, hpath⟩
    rw [h indices hpath] at hw
    cases hw

/-- What stands in a bag is what is found under its names, in order. -/
theorem entries_assign (root : Widget) :
    (assign (some root)).entries =
      root.nodes.map fun node => (node.path, nameAt root node.indices node.widget) := by
  refine List.map_injective_iff.mpr (fun _ _ => Option.some.inj) ?_
  have hentries : (assign (some root)).entries.map some =
      (assign (some root)).names.map fun path =>
        ((assign (some root)).get? path).map (Prod.mk path) := by
    rw [Bag.names, List.map_map]
    refine List.map_congr_left fun entry he => ?_
    have hget : (assign (some root)).get? entry.1 = some entry.2 := Bag.get?_eq_some_iff.mpr he
    rw [Function.comp_apply, hget, Option.map_some]
  rw [hentries, names_assign, List.map_map, List.map_map]
  refine List.map_congr_left fun node hm => ?_
  rw [Function.comp_apply, Function.comp_apply, get?_path hm, Option.map_some]

end Entries

/-- **The entries of a tree.** Different indices make different paths. The nodes of a tree are what
its indices lead to, in the order of the indices, and each has one entry with its path and its
identifier, in this order. So there are as many entries as nodes; the path of indices that lead to a
widget has the identifier of that widget, and no other text has any. -/
theorem entries_of_nodes (root : Widget) :
    (∀ a b, pathOf a = pathOf b ↔ a = b) ∧
    (root.nodes.Pairwise fun a b => a.indices < b.indices) ∧
    (∀ indices w, ⟨indices, w⟩ ∈ root.nodes ↔ root.at? indices = some w) ∧
    (assign (some root)).entries =
      root.nodes.map (fun node => (node.path, nameAt root node.indices node.widget)) ∧
    (assign (some root)).size = root.count ∧
    (∀ indices, (assign (some root)).get? (pathOf indices) =
      (root.at? indices).map (nameAt root indices)) ∧
    ∀ path, (assign (some root)).get? path = none ↔
      ∀ indices, pathOf indices = path → root.at? indices = none := by
  refine ⟨fun a b => ⟨pathOf_injective, congrArg pathOf⟩, Widget.pairwise_lt_nodesFrom [] root,
    fun indices w => Widget.mem_nodes_iff, entries_assign root, ?_, get?_pathOf root,
    fun path => get?_eq_none_iff⟩
  rw [Bag.size, entries_assign, List.length_map, Widget.length_nodes]

/-- Two paths that are alike but for an underscore. -/
example : pathOf [1, 0] = "root_1_0" ∧ pathOf [10] = "root_10" := by decide

end Name

end GuardedUi
