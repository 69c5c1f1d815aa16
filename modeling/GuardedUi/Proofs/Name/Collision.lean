import GuardedUi.Proofs.Name.Naming
import Mathlib.Data.List.Duplicate

/-!
# `Proofs/Name/Collision` — which nodes share an identifier

A user can give an id that looks like an own name, or like an own name with a suffix, and a type can
look like a path. None of that makes two nodes collide:

> **Two nodes have one identifier only if the user gave both of them ids with that identifier**
> (`userId?_of_get?_eq`).

There are two reasons. What a suffixed name must not be is collected before any name is given. And
own names differ among themselves, whatever the types are called. `identifiers_of_nodes` puts
together what the identifiers of a tree are and which of them `duplicates` lists. The last part is
about layouts, whose tree may be missing; `Layout.identifierOf` is what a node of one is called.
-/

set_option autoImplicit false

namespace GuardedUi

namespace Name

theorem exists_split_of_sublist {α : Type} {a b : α} {l : List α} (h : [a, b].Sublist l) :
    ∃ before mid after, l = before ++ a :: (mid ++ b :: after) := by
  obtain ⟨front, back, rfl, ha, hb⟩ := List.cons_sublist_iff.mp h
  obtain ⟨before, mid, rfl⟩ := List.append_of_mem ha
  obtain ⟨mid', after, rfl⟩ := List.append_of_mem (List.singleton_sublist.mp hb)
  exact ⟨before, mid ++ mid', after, by simp⟩

/-- **Two nodes have one identifier only if the user gave both of them ids with that
identifier.** -/
theorem userId?_of_get?_eq {root : Widget} {a b : TreeNode} (h : [a, b].Sublist root.nodes)
    (heq : (assign (some root)).get? a.path = (assign (some root)).get? b.path) :
    ∃ idA idB, a.userId? = some idA ∧ b.userId? = some idB ∧ identifier idA = identifier idB := by
  have hindices := List.pairwise_iff_forall_sublist.mp root.pairwise_nodes h
  have hmem : a ∈ root.nodes ∧ b ∈ root.nodes := by
    simpa using h.subset
  obtain ⟨before, mid, after, hnodes⟩ := exists_split_of_sublist h
  have hnodes' : root.nodes = (before ++ a :: mid) ++ b :: after := by simp [hnodes]
  obtain ⟨name, hname, hchoice⟩ := choice_assign hnodes
  obtain ⟨name', hname', hchoice'⟩ := choice_assign hnodes'
  obtain rfl : name = name' := Option.some.inj (hname.symm.trans (heq.trans hname'))
  cases hidA : a.userId? with
  | some idA =>
    obtain rfl := hchoice.eq_identifier hidA
    cases hidB : b.userId? with
    | some idB => exact ⟨idA, idB, rfl, rfl, hchoice'.eq_identifier hidB⟩
    | none =>
      -- What is made for `b` is not the identifier of an id.
      have huser : IsUserName root (identifier idA) := ⟨a, hmem.1, idA, hidA, rfl⟩
      exact absurd ((mem_user_progressAfter root _).mpr huser) (hchoice'.not_mem_user hidB)
  | none =>
    cases hidB : b.userId? with
    | some idB =>
      obtain rfl := hchoice'.eq_identifier hidB
      have huser : IsUserName root (identifier idB) := ⟨b, hmem.2, idB, hidB, rfl⟩
      exact absurd ((mem_user_progressAfter root _).mpr huser) (hchoice.not_mem_user hidA)
    | none =>
      -- Both names are made. Own names differ, and no suffixed name is an own name.
      exfalso
      have hown : ∀ node ∈ root.nodes, node.userId? = none → ∀ nodes,
          node.ownName ∈ (progressAfter root nodes).taken.own := fun node hm hid nodes =>
        (mem_own_progressAfter root nodes).mpr ⟨node, hm, hid, rfl⟩
      rcases hchoice.eq_ownName_or hidA with rfl | ⟨hnotown, -, hsuffixed⟩
      · rcases hchoice'.eq_ownName_or hidB with hsame | ⟨hnotown, -, -⟩
        · exact hindices (indices_eq_of_ownName_eq hsame)
        · exact hnotown (hown a hmem.1 hidA _)
      · rcases hchoice'.eq_ownName_or hidB with rfl | ⟨-, hnew, -⟩
        · exact hnotown (hown b hmem.2 hidB _)
        · -- The suffixed name of `a` is taken when `b` gets its own.
          have hlater := suffixed_subset root (before ++ [a]) mid hsuffixed
          rw [List.append_assoc, List.singleton_append] at hlater
          exact hnew hlater

/-! ## Shared identifiers -/

/-- Two nodes of the tree have the identifier. -/
def IsShared (root : Widget) (name : String) : Prop :=
  ∃ a b, [a, b].Sublist root.nodes ∧ (assign (some root)).get? a.path = some name ∧
    (assign (some root)).get? b.path = some name

theorem duplicates_eq (identifiers : Identifiers) :
    duplicates identifiers =
      (firsts identifiers.values).filter fun name => 1 < identifiers.values.count name := by
  rw [duplicates, Bag.names_ofList, List.map_map]
  simp [Function.comp_def]

theorem mem_duplicates {identifiers : Identifiers} {name : String} :
    name ∈ duplicates identifiers ↔ [name, name].Sublist identifiers.values := by
  rw [duplicates_eq, List.mem_filter, mem_firsts, ← List.duplicate_iff_sublist,
    List.duplicate_iff_two_le_count, decide_eq_true_iff]
  constructor
  · exact And.right
  · intro hcount
    exact ⟨List.count_pos_iff.mp (Nat.lt_of_succ_lt hcount), hcount⟩

theorem inFirstOrder_duplicates (identifiers : Identifiers) :
    InFirstOrder identifiers.values (duplicates identifiers) := by
  rw [duplicates_eq]
  exact (inFirstOrder_firsts identifiers.values).sublist List.filter_sublist

theorem mem_duplicates_assign {root : Widget} {name : String} :
    name ∈ duplicates (assign (some root)) ↔ IsShared root name := by
  have hsome : [name, name].Sublist (assign (some root)).values ↔
      [some name, some name].Sublist ((assign (some root)).values.map some) := by
    constructor
    · exact fun h => h.map some
    · intro h
      obtain ⟨pair, hpair, heq⟩ := List.sublist_map_iff.mp h
      rw [show [some name, some name] = [name, name].map some from rfl] at heq
      rwa [List.map_injective_iff.mpr (fun _ _ => Option.some.inj) heq]
  rw [mem_duplicates, hsome, map_values_assign, List.sublist_map_iff]
  constructor
  · rintro ⟨pair, hpair, heq⟩
    obtain ⟨a, rest, rfl, ha, hrest⟩ := List.map_eq_cons_iff.mp heq.symm
    obtain ⟨b, rest, rfl, hb, hnil⟩ := List.map_eq_cons_iff.mp hrest
    obtain rfl := List.map_eq_nil_iff.mp hnil
    exact ⟨a, b, hpair, ha, hb⟩
  · rintro ⟨a, b, hpair, ha, hb⟩
    exact ⟨[a, b], hpair, by simp [ha, hb]⟩

/-- **The identifiers of a tree.** A node has the identifier of its id, or its own name, or its own
name with the least free suffix. Nodes share an identifier only if the user made them share it, and
`duplicates` lists what is shared, in the order of the first occurrences. -/
theorem identifiers_of_nodes (root : Widget) :
    (∀ node ∈ root.nodes, ∀ id, node.userId? = some id →
      (assign (some root)).get? node.path = some (identifier id)) ∧
    (∀ node ∈ root.nodes, node.userId? = none → ¬ IsUserName root node.ownName →
      (assign (some root)).get? node.path = some node.ownName) ∧
    (∀ before node after, root.nodes = before ++ node :: after → node.userId? = none →
      IsUserName root node.ownName →
      ∃ n, 1 ≤ n ∧ (assign (some root)).get? node.path = some (withSuffix node.ownName n) ∧
        IsFree root before (withSuffix node.ownName n) ∧
        ∀ m, 1 ≤ m → m < n → ¬ IsFree root before (withSuffix node.ownName m)) ∧
    (root.nodes.Pairwise fun a b =>
      (assign (some root)).get? a.path = (assign (some root)).get? b.path →
      ∃ idA idB, a.userId? = some idA ∧ b.userId? = some idB ∧
        identifier idA = identifier idB) ∧
    (assign (some root)).values.map some =
      root.nodes.map (fun node => (assign (some root)).get? node.path) ∧
    (∀ name, name ∈ duplicates (assign (some root)) ↔ IsShared root name) ∧
    InFirstOrder (assign (some root)).values (duplicates (assign (some root))) := by
  refine ⟨fun node hm id hid => get?_of_userId? hm hid,
    fun node hm hid hfree => get?_of_not_isUserName hm hid hfree,
    fun before node after hnodes hid hclaimed => get?_of_isUserName hnodes hid hclaimed, ?_,
    map_values_assign root, fun name => mem_duplicates_assign, inFirstOrder_duplicates _⟩
  rw [List.pairwise_iff_forall_sublist]
  intro a b hab heq
  exact userId?_of_get?_eq hab heq

/-- An id that looks like an own name, another one that looks like that name with a suffix, and a
node whose own name is one. -/
example :
    let claimant := (Widget.new "button").withId "label_root_1"
    let label := Widget.new "label"
    let claimed := (label.withChild label).withChild label
    let imitator := (Widget.new "switch").withId "label_root_1_2"
    let root := (((Widget.new "obj").withChild claimant).withChild claimed).withChild imitator
    (assign (some root)).values =
      ["obj_root", "label_root_1", "label_root_1_3", "label_root_1_0", "label_root_1_1",
        "label_root_1_2"] := by
  decide +kernel

end Name

/-! ## Layouts -/

/-- The identifier that a node has among those of its tree. -/
def TreeNode.identifier (identifiers : Name.Identifiers) (node : TreeNode) : String :=
  (identifiers.get? node.path).getD ""

theorem TreeNode.identifier_eq {identifiers : Name.Identifiers} {node : TreeNode} {name : String}
    (h : identifiers.get? node.path = some name) : node.identifier identifiers = name := by
  rw [identifier, h, Option.getD_some]

namespace Layout

def identifierOf (layout : Layout) (node : TreeNode) : String :=
  node.identifier (Name.assign layout.root)

theorem choice_identifierOf {layout : Layout} {node : TreeNode} (hm : node ∈ layout.nodes) :
    (Name.assign layout.root).get? node.path = some (layout.identifierOf node) ∧
      ∃ taken next, Name.Choice taken node (layout.identifierOf node) next := by
  rw [nodes] at hm
  cases hroot : layout.root with
  | none => simp [hroot] at hm
  | some root =>
    rw [hroot] at hm
    obtain ⟨before, after, hnodes⟩ := List.append_of_mem hm
    obtain ⟨name, hname, hchoice⟩ := Name.choice_assign hnodes
    rw [identifierOf, hroot, TreeNode.identifier_eq hname]
    exact ⟨hname, _, _, hchoice⟩

theorem get?_eq_some_identifierOf {layout : Layout} {node : TreeNode} (hm : node ∈ layout.nodes) :
    (Name.assign layout.root).get? node.path = some (layout.identifierOf node) :=
  (choice_identifierOf hm).1

/-- **Two nodes have one identifier only if the user gave both of them ids with that
identifier.** -/
theorem userId?_of_identifierOf_eq {layout : Layout} {a b : TreeNode}
    (h : [a, b].Sublist layout.nodes) (heq : layout.identifierOf a = layout.identifierOf b) :
    ∃ idA idB, a.userId? = some idA ∧ b.userId? = some idB ∧
      Name.identifier idA = Name.identifier idB := by
  have hmem : a ∈ layout.nodes ∧ b ∈ layout.nodes := by
    simpa using h.subset
  have hget := (get?_eq_some_identifierOf hmem.1).trans
    ((congrArg some heq).trans (get?_eq_some_identifierOf hmem.2).symm)
  rw [nodes] at h
  cases hroot : layout.root with
  | none => simp [hroot] at h
  | some root =>
    rw [hroot] at h hget
    exact Name.userId?_of_get?_eq h hget

theorem values_assign (layout : Layout) :
    (Name.assign layout.root).values = layout.nodes.map layout.identifierOf := by
  refine List.map_injective_iff.mpr (fun _ _ => Option.some.inj) ?_
  rw [List.map_map]
  refine Eq.trans ?_ (List.map_congr_left fun node hm => get?_eq_some_identifierOf hm)
  rw [nodes]
  cases layout.root with
  | none => rfl
  | some root => exact Name.map_values_assign root

end Layout

end GuardedUi
