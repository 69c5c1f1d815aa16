import GuardedUi.Model.Layout
import GuardedUi.Proofs.Name.Words
import Mathlib.Data.List.Induction

/-!
# `Proofs/Name/TreeNode` — the nodes of a tree and the texts that stand for them

A node is a widget together with the indices of the children that lead to it. What the generator
knows of a node is flat text: its path, and for a widget without an id the own name, which is the
name of the type with the path behind it. Types are arbitrary texts, and a type may imitate a path.
This file is about reading such texts back:

> **Different nodes have different paths and different own names** (`pathOf_injective`,
> `indices_eq_of_ownName_eq`).

Behind the word `root` a path has underscores and digits only. So the last `t` of an own name is the
one of the path, whatever the type is, and what stands behind it is one underscore and one numeral
for every index.
-/

set_option autoImplicit false

namespace GuardedUi

/-- A widget of a tree, with the indices of the children that lead to it from the root. -/
structure TreeNode where
  indices : List Nat
  widget : Widget

namespace Widget

mutual

/-- The nodes of the tree at some indices, in pre-order. -/
def nodesFrom (indices : List Nat) : Widget → List TreeNode
  | ⟨type, id, children, styleId, events, properties⟩ =>
    ⟨indices, ⟨type, id, children, styleId, events, properties⟩⟩ ::
      nodesAllFrom indices 0 children

def nodesAllFrom (indices : List Nat) (index : Nat) : List Widget → List TreeNode
  | [] => []
  | w :: rest => nodesFrom (indices ++ [index]) w ++ nodesAllFrom indices (index + 1) rest

end

def nodes (root : Widget) : List TreeNode :=
  nodesFrom [] root

end Widget

def Layout.nodes (layout : Layout) : List TreeNode :=
  match layout.root with
  | none => []
  | some root => root.nodes

/-! ## Parting texts -/

section Parting

variable {α : Type} {a b s t : List α} {c : α}

/-- Two texts that agree agree on both sides of the last `c`. -/
theorem eq_of_last (hs : c ∉ s) (ht : c ∉ t) (h : a ++ c :: s = b ++ c :: t) :
    a = b ∧ s = t := by
  rcases List.append_eq_append_iff.mp h with ⟨mid, hb, hmid⟩ | ⟨mid, ha, hmid⟩
  · cases mid with
    | nil => exact ⟨by simpa using hb.symm, by simpa using hmid⟩
    | cons x mid =>
      -- Here the `c` of the second text would stand in `s`.
      obtain ⟨rfl, rfl⟩ := List.cons.inj hmid
      exact absurd (List.mem_append_right mid List.mem_cons_self) hs
  · cases mid with
    | nil => exact ⟨by simpa using ha, by simpa using hmid.symm⟩
    | cons x mid =>
      obtain ⟨rfl, rfl⟩ := List.cons.inj hmid
      exact absurd (List.mem_append_right mid List.mem_cons_self) ht

/-- Two texts that agree agree on both sides of the first `c`. -/
theorem eq_of_first (ha : c ∉ a) (hb : c ∉ b) (h : a ++ c :: s = b ++ c :: t) :
    a = b ∧ s = t := by
  have hrev := congrArg List.reverse h
  simp only [List.reverse_append, List.reverse_cons, List.append_assoc, List.singleton_append]
    at hrev
  obtain ⟨hs, ha⟩ := eq_of_last (by simpa using ha) (by simpa using hb) hrev
  exact ⟨List.reverse_inj.mp ha, List.reverse_inj.mp hs⟩

end Parting

namespace Name

/-! ## Numerals -/

theorem toList_integerNumeral (n : Nat) : (integerNumeral n).toList = Nat.toDigits 10 n := by
  have hneg : ¬ (n : Int) < 0 := by omega
  rw [integerNumeral, if_neg hneg, String.empty_append, String.toList_ofList]
  rfl

theorem toDigits_injective {m n : Nat} (h : Nat.toDigits 10 m = Nat.toDigits 10 n) : m = n := by
  have hread := congrArg (fun digits => Nat.ofDigitChars 10 digits 0) h
  simpa using hread

theorem not_mem_toDigits {c : Char} (hc : c.isDigit = false) (n : Nat) :
    c ∉ Nat.toDigits 10 n := by
  intro hm
  have hdigit : c.isDigit = true := Nat.isDigit_of_mem_toDigits (by decide) (by decide) hm
  exact absurd (hc.symm.trans hdigit) (by decide)

/-! ## Paths -/

def pathOf (indices : List Nat) : String :=
  indices.foldl childPath rootPath

@[simp] theorem pathOf_nil : pathOf [] = rootPath :=
  rfl

@[simp] theorem pathOf_concat (indices : List Nat) (index : Nat) :
    pathOf (indices ++ [index]) = childPath (pathOf indices) index := by
  simp [pathOf]

/-- What stands in a path behind the word `root`. -/
def pathTail (indices : List Nat) : List Char :=
  indices.flatMap fun index => '_' :: Nat.toDigits 10 index

theorem toList_childPath (path : String) (index : Nat) :
    (childPath path index).toList = path.toList ++ '_' :: Nat.toDigits 10 index := by
  simp [childPath, String.toList_append, toList_integerNumeral]

theorem toList_pathOf (indices : List Nat) :
    (pathOf indices).toList = "roo".toList ++ 't' :: pathTail indices := by
  have hfold : ∀ path : String,
      (indices.foldl childPath path).toList = path.toList ++ pathTail indices := by
    induction indices with
    | nil => simp [pathTail]
    | cons index rest ih =>
      intro path
      rw [List.foldl_cons, ih, toList_childPath, List.append_assoc]
      rfl
  rw [pathOf, hfold]
  rfl

theorem t_not_mem_pathTail (indices : List Nat) : 't' ∉ pathTail indices := by
  intro hm
  obtain ⟨index, -, hm⟩ := List.mem_flatMap.mp hm
  rcases List.mem_cons.mp hm with h | h
  · exact absurd h (by decide)
  · exact not_mem_toDigits (by decide) index h

/-- With one more underscore, what stands behind a numeral always begins with one. -/
theorem exists_pathTail_concat (indices : List Nat) :
    ∃ rest, pathTail indices ++ ['_'] = '_' :: rest := by
  cases indices with
  | nil => exact ⟨[], rfl⟩
  | cons index rest => exact ⟨_, rfl⟩

theorem pathTail_injective : ∀ {a b : List Nat}, pathTail a = pathTail b → a = b
  | [], [], _ => rfl
  | [], _ :: _, h => absurd h (by simp [pathTail])
  | _ :: _, [], h => absurd h (by simp [pathTail])
  | i :: a, j :: b, h => by
    have hnumeral : ∀ n, '_' ∉ Nat.toDigits 10 n := not_mem_toDigits (by decide)
    obtain ⟨restA, ha⟩ := exists_pathTail_concat a
    obtain ⟨restB, hb⟩ := exists_pathTail_concat b
    have h : Nat.toDigits 10 i ++ pathTail a = Nat.toDigits 10 j ++ pathTail b :=
      (List.cons.inj h).2
    -- No numeral has an underscore, so the first one is where the first numeral ends.
    have hclosed := congrArg (· ++ ['_']) h
    simp only [List.append_assoc, ha, hb] at hclosed
    obtain ⟨hdigits, hrest⟩ := eq_of_first (hnumeral i) (hnumeral j) hclosed
    have htail : pathTail a = pathTail b :=
      (List.append_left_inj ['_']).mp (by rw [ha, hb, hrest])
    rw [toDigits_injective hdigits, pathTail_injective htail]

/-- **Different indices make different paths.** -/
theorem pathOf_injective {a b : List Nat} (h : pathOf a = pathOf b) : a = b := by
  have h := congrArg String.toList h
  rw [toList_pathOf, toList_pathOf] at h
  exact pathTail_injective (eq_of_last (t_not_mem_pathTail a) (t_not_mem_pathTail b) h).2

/-- **The indices can be read off an own name**, whatever the type is called. -/
theorem indices_eq_of_ownName_eq {type type' : String} {a b : List Nat}
    (h : ownName type (pathOf a) = ownName type' (pathOf b)) : a = b := by
  have h := congrArg String.toList h
  simp only [ownName, String.toList_append, toList_pathOf, ← List.append_assoc] at h
  exact pathTail_injective (eq_of_last (t_not_mem_pathTail a) (t_not_mem_pathTail b) h).2

theorem withSuffix_injective {base : String} {m n : Nat}
    (h : withSuffix base m = withSuffix base n) : m = n := by
  have h := congrArg String.toList h
  simp only [withSuffix, String.toList_append, toList_integerNumeral] at h
  exact toDigits_injective (List.append_cancel_left h)

/-! ## Ends of names -/

end Name

/-! ## Nodes -/

namespace TreeNode

def path (node : TreeNode) : String :=
  Name.pathOf node.indices

def userId? (node : TreeNode) : Option String :=
  node.widget.userId?

/-- The name that the widget of a node has of itself. -/
def ownName (node : TreeNode) : String :=
  Name.ownName node.widget.type node.path

end TreeNode

namespace Widget

mutual

theorem isPrefix_of_mem_nodesFrom (indices : List Nat) :
    ∀ (w : Widget), ∀ node ∈ nodesFrom indices w, indices <+: node.indices
  | ⟨type, id, children, styleId, events, properties⟩, node, h => by
    rw [nodesFrom] at h
    rcases List.mem_cons.mp h with rfl | h
    · exact List.prefix_rfl
    · obtain ⟨index, -, hprefix⟩ := isPrefix_of_mem_nodesAllFrom indices 0 children node h
      exact (List.prefix_append indices [index]).trans hprefix

theorem isPrefix_of_mem_nodesAllFrom (indices : List Nat) (index : Nat) :
    ∀ (children : List Widget), ∀ node ∈ nodesAllFrom indices index children,
      ∃ later, index ≤ later ∧ indices ++ [later] <+: node.indices
  | [], node, h => by simp [nodesAllFrom] at h
  | w :: rest, node, h => by
    rw [nodesAllFrom] at h
    rcases List.mem_append.mp h with h | h
    · exact ⟨index, Nat.le_refl index, isPrefix_of_mem_nodesFrom _ w node h⟩
    · obtain ⟨later, hle, hprefix⟩ := isPrefix_of_mem_nodesAllFrom indices (index + 1) rest node h
      exact ⟨later, Nat.le_of_succ_le hle, hprefix⟩

end

mutual

/-- Nodes come in the order of their indices: a node before those below it, and children from left
to right. -/
theorem pairwise_lt_nodesFrom (indices : List Nat) :
    ∀ w : Widget, (nodesFrom indices w).Pairwise fun a b => a.indices < b.indices
  | ⟨type, id, children, styleId, events, properties⟩ => by
    rw [nodesFrom, List.pairwise_cons]
    refine ⟨fun node h => ?_, pairwise_lt_nodesAllFrom indices 0 children⟩
    obtain ⟨index, -, below, hbelow⟩ := isPrefix_of_mem_nodesAllFrom indices 0 children node h
    rw [← hbelow, List.append_assoc]
    have hlt : indices ++ [] < indices ++ ([index] ++ below) :=
      List.append_left_lt (List.nil_lt_cons index below)
    rwa [List.append_nil] at hlt

theorem pairwise_lt_nodesAllFrom (indices : List Nat) (index : Nat) :
    ∀ children : List Widget,
      (nodesAllFrom indices index children).Pairwise fun a b => a.indices < b.indices
  | [] => by simp [nodesAllFrom]
  | w :: rest => by
    rw [nodesAllFrom, List.pairwise_append]
    refine ⟨pairwise_lt_nodesFrom _ w, pairwise_lt_nodesAllFrom indices (index + 1) rest, ?_⟩
    intro a ha b hb
    -- The first tree stands at `index`, all others at greater indices.
    obtain ⟨belowA, hbelowA⟩ := isPrefix_of_mem_nodesFrom _ w a ha
    obtain ⟨later, hle, belowB, hbelowB⟩ :=
      isPrefix_of_mem_nodesAllFrom indices (index + 1) rest b hb
    rw [← hbelowA, ← hbelowB, List.append_assoc, List.append_assoc]
    exact List.append_left_lt (List.cons_lt_cons_iff.mpr (.inl (Nat.lt_of_succ_le hle)))

end

theorem ne_of_indices_lt {a b : TreeNode} (h : a.indices < b.indices) : a.indices ≠ b.indices := by
  intro heq
  rw [heq] at h
  exact List.lt_irrefl _ h

theorem pairwise_nodesAllFrom (indices : List Nat) (index : Nat) (children : List Widget) :
    (nodesAllFrom indices index children).Pairwise fun a b => a.indices ≠ b.indices :=
  (pairwise_lt_nodesAllFrom indices index children).imp ne_of_indices_lt

theorem pairwise_nodes (root : Widget) :
    root.nodes.Pairwise fun a b => a.indices ≠ b.indices :=
  (pairwise_lt_nodesFrom [] root).imp ne_of_indices_lt

/-- **Every node of a tree has a path of its own.** -/
theorem nodup_paths (root : Widget) : (root.nodes.map TreeNode.path).Nodup := by
  rw [List.Nodup, List.pairwise_map]
  exact root.pairwise_nodes.imp fun hne heq => hne (Name.pathOf_injective heq)

end Widget

end GuardedUi
