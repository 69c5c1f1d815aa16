import GuardedUi.Proofs.Firsts
import GuardedUi.Proofs.Name.TreeNode
import Mathlib.Data.List.Nodup
import Mathlib.Data.List.Perm.Subperm

/-!
# `Proofs/Name/Naming` — which identifier a node gets

The assignment goes through the nodes in pre-order and carries along which names are taken
(`assignAt_eq_foldl`). What it does at one node is `Choice`: the identifier of the id that the user
gave, or the own name, or the own name with the least free suffix. All that is said about the
identifiers of a tree is read off these three cases:

> **A node has the identifier of the id that the user gave it** (`get?_of_userId?`). **Without an id
> it has its own name, if no id has that** (`get?_of_not_isUserName`), **and else its own name with
> the least suffix that makes it free** (`get?_of_isUserName`).

What is free depends on all ids and own names of the tree, also of nodes that come later, and on the
suffixed names given so far. That the search for a suffix ends is `exists_freeSuffix?`.
-/

set_option autoImplicit false

namespace GuardedUi.Name

/-! ## Free suffixes -/

theorem Taken.contains_iff {taken : Taken} {name : String} :
    taken.contains name = true ↔
      name ∈ taken.user ∨ name ∈ taken.own ∨ name ∈ taken.suffixed := by
  simp [Taken.contains, or_assoc]

/-- The search goes through the suffixes one after the other. -/
theorem exists_of_freeSuffix? {taken : Taken} {base name : String} {fuel n : Nat}
    (h : freeSuffix? taken base fuel n = some name) :
    ∃ k, n ≤ k ∧ name = withSuffix base k ∧ taken.contains (withSuffix base k) = false ∧
      ∀ m, n ≤ m → m < k → taken.contains (withSuffix base m) = true := by
  induction fuel generalizing n with
  | zero => simp [freeSuffix?] at h
  | succ fuel ih =>
    rw [freeSuffix?] at h
    split at h
    · rename_i htaken
      obtain ⟨k, hk, hname, hfree, hleast⟩ := ih h
      refine ⟨k, Nat.le_of_succ_le hk, hname, hfree, fun m hn hm => ?_⟩
      rcases Nat.eq_or_lt_of_le hn with rfl | hlt
      · exact htaken
      · exact hleast m hlt hm
    · rename_i hfree
      refine ⟨n, Nat.le_refl n, (Option.some.inj h).symm, by simpa using hfree, ?_⟩
      intro m hn hm
      exact absurd hm (Nat.not_lt.mpr hn)

theorem contains_of_freeSuffix?_eq_none {taken : Taken} {base : String} {fuel n : Nat}
    (h : freeSuffix? taken base fuel n = none) :
    ∀ i, i < fuel → taken.contains (withSuffix base (n + i)) = true := by
  induction fuel generalizing n with
  | zero =>
    intro i hi
    exact absurd hi (Nat.not_lt_zero i)
  | succ fuel ih =>
    rw [freeSuffix?] at h
    split at h
    · rename_i htaken
      intro i hi
      cases i with
      | zero => exact htaken
      | succ i =>
        rw [show n + (i + 1) = n + 1 + i by omega]
        exact ih h i (Nat.lt_of_succ_lt_succ hi)
    · exact absurd h (by simp)

/-- The names that are taken, each once. -/
def Taken.names (taken : Taken) : List String :=
  firsts (taken.user ++ taken.own ++ taken.suffixed)

theorem Taken.mem_names_iff {taken : Taken} {name : String} :
    name ∈ taken.names ↔ taken.contains name = true := by
  rw [names, mem_firsts, contains_iff, List.mem_append, List.mem_append, or_assoc]

theorem Taken.length_names_le (taken : Taken) : taken.names.length ≤ taken.size := by
  have hamong : taken.names ⊆ taken.user ++ taken.own ++ taken.suffixed := fun _ h =>
    mem_firsts.mp h
  have hlength := (List.subperm_of_subset (inFirstOrder_firsts _).nodup hamong).length_le
  rwa [List.length_append, List.length_append] at hlength

/-- Candidates that are all taken are no more than the taken names, because they differ. -/
theorem Taken.le_length_names {taken : Taken} {base : String} {count : Nat}
    (h : ∀ i, i < count → taken.contains (withSuffix base (1 + i)) = true) :
    count ≤ taken.names.length := by
  have hdistinct : ((List.range count).map fun i => withSuffix base (1 + i)).Nodup := by
    refine List.Nodup.map (fun i j hij => ?_) List.nodup_range
    exact Nat.add_left_cancel (withSuffix_injective hij)
  have hamong : ((List.range count).map fun i => withSuffix base (1 + i)) ⊆ taken.names := by
    intro name hname
    obtain ⟨i, hi, rfl⟩ := List.mem_map.mp hname
    exact mem_names_iff.mpr (h i (List.mem_range.mp hi))
  have hlength := (List.subperm_of_subset hdistinct hamong).length_le
  rwa [List.length_map, List.length_range] at hlength

/-- **A free suffix is found.** -/
theorem exists_freeSuffix? (taken : Taken) (base : String) :
    ∃ name, freeSuffix? taken base (taken.size + 1) 1 = some name := by
  cases hsearch : freeSuffix? taken base (taken.size + 1) 1 with
  | some name => exact ⟨name, rfl⟩
  | none =>
    have hcandidates := Taken.le_length_names (contains_of_freeSuffix?_eq_none hsearch)
    exact absurd (Nat.le_trans hcandidates taken.length_names_le) (Nat.not_succ_le_self _)

/-! ## The choice at one node -/

/-- How a node comes by its identifier, and which names are taken then. -/
inductive Choice (taken : Taken) (node : TreeNode) : String → Taken → Prop where
  | user {id : String} (hid : node.userId? = some id) : Choice taken node (identifier id) taken
  | own (hid : node.userId? = none) (hfree : node.ownName ∉ taken.user) :
    Choice taken node node.ownName taken
  | suffixed {n : Nat} (hid : node.userId? = none) (hclaimed : node.ownName ∈ taken.user)
      (hn : 1 ≤ n) (hfree : taken.contains (withSuffix node.ownName n) = false)
      (hleast : ∀ m, 1 ≤ m → m < n → taken.contains (withSuffix node.ownName m) = true) :
    Choice taken node (withSuffix node.ownName n)
      { taken with suffixed := taken.suffixed ++ [withSuffix node.ownName n] }

def give (taken : Taken) (node : TreeNode) : String × Taken :=
  match node.userId? with
  | some id => (identifier id, taken)
  | none => resolve taken node.ownName

theorem choice_give (taken : Taken) (node : TreeNode) :
    Choice taken node (give taken node).1 (give taken node).2 := by
  rw [give]
  cases hid : node.userId? with
  | some id => exact .user hid
  | none =>
    simp only [resolve]
    split
    · rename_i hclaimed
      obtain ⟨name, hname⟩ := exists_freeSuffix? taken node.ownName
      obtain ⟨n, hn, rfl, hfree, hleast⟩ := exists_of_freeSuffix? hname
      rw [hname]
      exact .suffixed hid (by simpa using hclaimed) hn hfree hleast
    · rename_i hfree
      exact .own hid (by simpa using hfree)

namespace Choice

variable {taken next : Taken} {node : TreeNode} {name id : String}

theorem eq_identifier (h : Choice taken node name next) (hid : node.userId? = some id) :
    name = identifier id := by
  cases h with
  | user hid' => rw [Option.some.inj (hid'.symm.trans hid)]
  | own hid' => exact absurd (hid'.symm.trans hid) (by simp)
  | suffixed hid' => exact absurd (hid'.symm.trans hid) (by simp)

/-- No node without an id gets the identifier of an id. -/
theorem not_mem_user (h : Choice taken node name next) (hid : node.userId? = none) :
    name ∉ taken.user := by
  cases h with
  | user hid' => exact absurd (hid'.symm.trans hid) (by simp)
  | own _ hfree => exact hfree
  | suffixed _ _ _ hfree =>
    intro hm
    exact absurd (Taken.contains_iff.mpr (Or.inl hm)) (by simp [hfree])

/-- A name with a suffix is no own name and is new among those with a suffix. -/
theorem eq_ownName_or (h : Choice taken node name next) (hid : node.userId? = none) :
    name = node.ownName ∨
      (name ∉ taken.own ∧ name ∉ taken.suffixed ∧ name ∈ next.suffixed) := by
  cases h with
  | user hid' => exact absurd (hid'.symm.trans hid) (by simp)
  | own => exact Or.inl rfl
  | suffixed _ _ _ hfree =>
    rw [← Bool.not_eq_true, Taken.contains_iff, not_or, not_or] at hfree
    exact Or.inr ⟨hfree.2.1, hfree.2.2, by simp⟩

theorem user_eq (h : Choice taken node name next) : next.user = taken.user := by
  cases h <;> rfl

theorem own_eq (h : Choice taken node name next) : next.own = taken.own := by
  cases h <;> rfl

/-- Exactly a name with a suffix is added to those. -/
theorem mem_suffixed_iff (h : Choice taken node name next) {other : String} :
    other ∈ next.suffixed ↔ other ∈ taken.suffixed ∨
      (node.userId? = none ∧ node.ownName ∈ taken.user ∧ other = name) := by
  cases h with
  | user hid => simp [hid]
  | own _ hfree => simp [hfree]
  | suffixed hid hclaimed => simp [hid, hclaimed]

theorem length_suffixed_le (h : Choice taken node name next) :
    next.suffixed.length ≤ taken.suffixed.length + 1 := by
  cases h with
  | user => exact Nat.le_succ _
  | own => exact Nat.le_succ _
  | suffixed => exact Nat.le_of_eq List.length_append

end Choice

/-! ## The assignment as a walk through the nodes -/

def Progress.step (progress : Progress) (node : TreeNode) : Progress where
  taken := (give progress.taken node).2
  identifiers := progress.identifiers.put node.path (give progress.taken node).1

mutual

theorem assignAt_eq_foldl (indices : List Nat) (progress : Progress) :
    ∀ w : Widget,
      assignAt (pathOf indices) progress w = (w.nodesFrom indices).foldl Progress.step progress
  | ⟨type, id, children, styleId, events, properties⟩ => by
    rw [assignAt, Widget.nodesFrom, List.foldl_cons]
    cases hid : Widget.givenId? id with
    | some given =>
      dsimp only
      rw [assignAll_eq_foldl indices 0 _ children]
      simp only [Progress.step, give, TreeNode.userId?, Widget.userId?, hid, TreeNode.path]
    | none =>
      dsimp only
      rw [assignAll_eq_foldl indices 0 _ children]
      simp only [Progress.step, give, TreeNode.userId?, Widget.userId?, hid, TreeNode.path,
        TreeNode.ownName]

theorem assignAll_eq_foldl (indices : List Nat) (index : Nat) (progress : Progress) :
    ∀ children : List Widget,
      assignAll (pathOf indices) index progress children =
        (Widget.nodesAllFrom indices index children).foldl Progress.step progress
  | [] => by rw [assignAll, Widget.nodesAllFrom]; rfl
  | w :: rest => by
    rw [assignAll, Widget.nodesAllFrom, List.foldl_append, ← pathOf_concat,
      assignAt_eq_foldl (indices ++ [index]) progress w,
      assignAll_eq_foldl indices (index + 1) _ rest]

end

def start (root : Widget) : Progress where
  taken := { user := userNames root, own := ownNames rootPath root, suffixed := [] }
  identifiers := Bag.empty

/-- How far the assignment of a tree is after some of its nodes. -/
def progressAfter (root : Widget) (nodes : List TreeNode) : Progress :=
  nodes.foldl Progress.step (start root)

theorem assign_eq (root : Widget) :
    assign (some root) = (progressAfter root root.nodes).identifiers := by
  rw [assign, progressAfter, Widget.nodes, ← assignAt_eq_foldl [] (start root) root]
  rfl

theorem progressAfter_concat (root : Widget) (nodes : List TreeNode) (node : TreeNode) :
    progressAfter root (nodes ++ [node]) = (progressAfter root nodes).step node := by
  simp [progressAfter]

theorem choice_progressAfter (root : Widget) (nodes : List TreeNode) (node : TreeNode) :
    Choice (progressAfter root nodes).taken node (give (progressAfter root nodes).taken node).1
      (progressAfter root (nodes ++ [node])).taken := by
  rw [progressAfter_concat]
  exact choice_give _ node

/-! ## Names that are known from the start -/

mutual

theorem mem_userNames_nodesFrom (indices : List Nat) {name : String} :
    ∀ w : Widget, name ∈ userNames w ↔
      ∃ node ∈ w.nodesFrom indices, ∃ id, node.userId? = some id ∧ identifier id = name
  | ⟨type, id, children, styleId, events, properties⟩ => by
    rw [userNames, Widget.nodesFrom, List.mem_append,
      mem_userNames_nodesAllFrom indices 0 children]
    cases hid : Widget.givenId? id <;>
      simp [TreeNode.userId?, Widget.userId?, hid, eq_comm]

theorem mem_userNames_nodesAllFrom (indices : List Nat) (index : Nat) {name : String} :
    ∀ children : List Widget, name ∈ userNamesAll children ↔
      ∃ node ∈ Widget.nodesAllFrom indices index children,
        ∃ id, node.userId? = some id ∧ identifier id = name
  | [] => by simp [userNamesAll, Widget.nodesAllFrom]
  | w :: rest => by
    rw [userNamesAll, Widget.nodesAllFrom, List.mem_append,
      mem_userNames_nodesFrom (indices ++ [index]) w,
      mem_userNames_nodesAllFrom indices (index + 1) rest]
    simp only [List.mem_append, or_and_right, exists_or]

end

mutual

theorem mem_ownNames_nodesFrom (indices : List Nat) {name : String} :
    ∀ w : Widget, name ∈ ownNames (pathOf indices) w ↔
      ∃ node ∈ w.nodesFrom indices, node.userId? = none ∧ node.ownName = name
  | ⟨type, id, children, styleId, events, properties⟩ => by
    rw [ownNames, Widget.nodesFrom, List.mem_append, mem_ownNames_nodesAllFrom indices 0 children]
    cases hid : Widget.givenId? id <;>
      simp [TreeNode.userId?, Widget.userId?, hid, TreeNode.ownName, TreeNode.path, eq_comm]

theorem mem_ownNames_nodesAllFrom (indices : List Nat) (index : Nat) {name : String} :
    ∀ children : List Widget, name ∈ ownNamesAll (pathOf indices) index children ↔
      ∃ node ∈ Widget.nodesAllFrom indices index children,
        node.userId? = none ∧ node.ownName = name
  | [] => by simp [ownNamesAll, Widget.nodesAllFrom]
  | w :: rest => by
    rw [ownNamesAll, Widget.nodesAllFrom, List.mem_append, ← pathOf_concat,
      mem_ownNames_nodesFrom (indices ++ [index]) w,
      mem_ownNames_nodesAllFrom indices (index + 1) rest]
    simp only [List.mem_append, or_and_right, exists_or]

end

/-- The name is the identifier of an id that the user gave a node of the tree. -/
def IsUserName (root : Widget) (name : String) : Prop :=
  ∃ node ∈ root.nodes, ∃ id, node.userId? = some id ∧ identifier id = name

/-- The name is the own name of a node without an id. -/
def IsOwnName (root : Widget) (name : String) : Prop :=
  ∃ node ∈ root.nodes, node.userId? = none ∧ node.ownName = name

/-- One of the nodes has no id and got the name because its own name is the user's. -/
def IsSuffixedName (root : Widget) (nodes : List TreeNode) (name : String) : Prop :=
  ∃ node ∈ nodes, node.userId? = none ∧ IsUserName root node.ownName ∧
    (assign (some root)).get? node.path = some name

/-- The name can be given to the node that comes after some others. -/
def IsFree (root : Widget) (before : List TreeNode) (name : String) : Prop :=
  ¬ IsUserName root name ∧ ¬ IsOwnName root name ∧ ¬ IsSuffixedName root before name

theorem user_progressAfter (root : Widget) (nodes : List TreeNode) :
    (progressAfter root nodes).taken.user = userNames root := by
  induction nodes using List.reverseRecOn with
  | nil => rfl
  | append_singleton nodes node ih => rw [(choice_progressAfter root nodes node).user_eq, ih]

theorem own_progressAfter (root : Widget) (nodes : List TreeNode) :
    (progressAfter root nodes).taken.own = ownNames rootPath root := by
  induction nodes using List.reverseRecOn with
  | nil => rfl
  | append_singleton nodes node ih => rw [(choice_progressAfter root nodes node).own_eq, ih]

theorem mem_user_progressAfter (root : Widget) (nodes : List TreeNode) {name : String} :
    name ∈ (progressAfter root nodes).taken.user ↔ IsUserName root name := by
  rw [user_progressAfter]
  exact mem_userNames_nodesFrom [] root

theorem mem_own_progressAfter (root : Widget) (nodes : List TreeNode) {name : String} :
    name ∈ (progressAfter root nodes).taken.own ↔ IsOwnName root name := by
  rw [own_progressAfter]
  exact mem_ownNames_nodesFrom [] root

/-! ## The identifiers of a tree -/

theorem names_progressAfter (root : Widget) (nodes : List TreeNode) :
    (progressAfter root nodes).identifiers.names = firsts (nodes.map TreeNode.path) := by
  induction nodes using List.reverseRecOn with
  | nil => rfl
  | append_singleton nodes node ih =>
    rw [progressAfter_concat, Progress.step, Bag.names_put, ih, List.map_append, List.map_singleton,
      firsts_concat]

/-- The paths that have an identifier are those of the nodes, in pre-order. -/
theorem names_assign (root : Widget) :
    (assign (some root)).names = root.nodes.map TreeNode.path := by
  rw [assign_eq, names_progressAfter, firsts_eq_self root.nodup_paths]

theorem map_values_assign (root : Widget) :
    (assign (some root)).values.map some =
      root.nodes.map fun node => (assign (some root)).get? node.path := by
  rw [← Bag.map_get?_names, names_assign, List.map_map]
  rfl

section Walk

variable {root : Widget} {before after : List TreeNode} {node : TreeNode}

theorem get?_assign (h : root.nodes = before ++ node :: after) :
    (assign (some root)).get? node.path =
      some (give (progressAfter root before).taken node).1 := by
  have hpaths := root.nodup_paths
  rw [h, List.map_append, List.map_cons] at hpaths
  have hlater : node.path ∉ after.map TreeNode.path :=
    (List.nodup_cons.mp (List.nodup_append.mp hpaths).2.1).1
  -- No later node has the path, so what was put there stays.
  have hkeep : ∀ (nodes : List TreeNode) (progress : Progress),
      node.path ∉ nodes.map TreeNode.path →
      (nodes.foldl Progress.step progress).identifiers.get? node.path =
        progress.identifiers.get? node.path := by
    intro nodes
    induction nodes with
    | nil => exact fun _ _ => rfl
    | cons first rest ih =>
      intro progress hnot
      rw [List.map_cons, List.mem_cons, not_or] at hnot
      rw [List.foldl_cons, ih _ hnot.2, Progress.step, Bag.get?_put, if_neg hnot.1]
  rw [assign_eq, h, progressAfter, List.foldl_append, List.foldl_cons, hkeep _ _ hlater,
    Progress.step, Bag.get?_put, if_pos rfl]
  rfl

theorem choice_assign (h : root.nodes = before ++ node :: after) :
    ∃ name, (assign (some root)).get? node.path = some name ∧
      Choice (progressAfter root before).taken node name
        (progressAfter root (before ++ [node])).taken :=
  ⟨_, get?_assign h, choice_progressAfter root before node⟩

theorem mem_suffixed_progressAfter {rest : List TreeNode} (h : root.nodes = before ++ rest)
    {name : String} :
    name ∈ (progressAfter root before).taken.suffixed ↔ IsSuffixedName root before name := by
  induction before using List.reverseRecOn generalizing rest with
  | nil => simp [progressAfter, start, IsSuffixedName]
  | append_singleton before node ih =>
    rw [List.append_assoc, List.singleton_append] at h
    obtain ⟨given, hgiven, hchoice⟩ := choice_assign h
    rw [hchoice.mem_suffixed_iff, ih h, mem_user_progressAfter, eq_comm (a := name)]
    simp only [IsSuffixedName, List.mem_append, List.mem_singleton, or_and_right, exists_or,
      exists_eq_left, hgiven, Option.some.injEq]

theorem contains_progressAfter {rest : List TreeNode} (h : root.nodes = before ++ rest)
    {name : String} :
    (progressAfter root before).taken.contains name = false ↔ IsFree root before name := by
  rw [← Bool.not_eq_true, Taken.contains_iff, mem_user_progressAfter, mem_own_progressAfter,
    mem_suffixed_progressAfter h, not_or, not_or]
  rfl

theorem suffixed_subset (root : Widget) (before more : List TreeNode) :
    (progressAfter root before).taken.suffixed ⊆
      (progressAfter root (before ++ more)).taken.suffixed := by
  induction more using List.reverseRecOn with
  | nil => simp
  | append_singleton more node ih =>
    intro name hname
    rw [← List.append_assoc]
    exact (choice_progressAfter root (before ++ more) node).mem_suffixed_iff.mpr
      (Or.inl (ih hname))

end Walk

section Cases

variable {root : Widget} {node : TreeNode}

theorem get?_of_userId? (hm : node ∈ root.nodes) {id : String} (hid : node.userId? = some id) :
    (assign (some root)).get? node.path = some (identifier id) := by
  obtain ⟨before, after, hnodes⟩ := List.append_of_mem hm
  obtain ⟨name, hname, hchoice⟩ := choice_assign hnodes
  rw [hname, hchoice.eq_identifier hid]

theorem get?_of_not_isUserName (hm : node ∈ root.nodes) (hid : node.userId? = none)
    (hfree : ¬ IsUserName root node.ownName) :
    (assign (some root)).get? node.path = some node.ownName := by
  obtain ⟨before, after, hnodes⟩ := List.append_of_mem hm
  obtain ⟨name, hname, hchoice⟩ := choice_assign hnodes
  generalize (progressAfter root (before ++ [node])).taken = next at hchoice
  cases hchoice with
  | user hid' => exact absurd (hid'.symm.trans hid) (by simp)
  | own => exact hname
  | suffixed _ hclaimed => exact absurd ((mem_user_progressAfter root before).mp hclaimed) hfree

theorem get?_of_isUserName {before after : List TreeNode}
    (hnodes : root.nodes = before ++ node :: after) (hid : node.userId? = none)
    (hclaimed : IsUserName root node.ownName) :
    ∃ n, 1 ≤ n ∧ (assign (some root)).get? node.path = some (withSuffix node.ownName n) ∧
      IsFree root before (withSuffix node.ownName n) ∧
      ∀ m, 1 ≤ m → m < n → ¬ IsFree root before (withSuffix node.ownName m) := by
  obtain ⟨name, hname, hchoice⟩ := choice_assign hnodes
  generalize (progressAfter root (before ++ [node])).taken = next at hchoice
  cases hchoice with
  | user hid' => exact absurd (hid'.symm.trans hid) (by simp)
  | own _ hfree => exact absurd ((mem_user_progressAfter root before).mpr hclaimed) hfree
  | @suffixed n _ _ hn hfree hleast =>
    refine ⟨n, hn, hname, (contains_progressAfter hnodes).mp hfree, fun m hm hlt hfree' => ?_⟩
    have htaken := hleast m hm hlt
    rw [(contains_progressAfter hnodes).mpr hfree'] at htaken
    exact absurd htaken (by simp)

end Cases

end GuardedUi.Name
