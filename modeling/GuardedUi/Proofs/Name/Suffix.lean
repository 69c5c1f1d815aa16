import GuardedUi.Proofs.Name.Entry
import Mathlib.Order.Bounds.Defs

/-!
# `Proofs/Name/Suffix` — how far the search for a suffix goes

A widget whose own name is claimed by an id gets the first suffix that is free, and suffixes are
tried one after the other without an end. `freeSuffix?` tries no more of them than there can be
names, and this makes no difference:

> **The search ends with the least free suffix of all, after no more failures than there are names
> taken** (`suffix_search_ends`), **and these are at most twice as many as there are nodes.**

Every node brings in one name from the start, of its id or its own (`length_names_add`), and at most
one with a suffix later (`length_suffixed_progressAfter`). The candidates differ, so they cannot all
be among these.
-/

set_option autoImplicit false

namespace GuardedUi.Name

/-! ## The search -/

/-- **The search ends with the least free suffix.** What was tried before it is taken, so it comes
no later than one candidate behind the number of taken names. -/
theorem isLeast_of_freeSuffix? (taken : Taken) (base : String) :
    ∃ n, freeSuffix? taken base (taken.size + 1) 1 = some (withSuffix base n) ∧
      IsLeast {k | 1 ≤ k ∧ taken.contains (withSuffix base k) = false} n ∧
      n ≤ 1 + taken.names.length := by
  obtain ⟨name, hname⟩ := exists_freeSuffix? taken base
  obtain ⟨n, hn, rfl, hfree, htried⟩ := exists_of_freeSuffix? hname
  refine ⟨n, hname, ⟨⟨hn, hfree⟩, fun k hk => ?_⟩, ?_⟩
  · obtain ⟨hk, hkfree⟩ := hk
    by_contra hlt
    rw [htried k hk (Nat.not_le.mp hlt)] at hkfree
    cases hkfree
  · have hfailures : n - 1 ≤ taken.names.length :=
      Taken.le_length_names fun i hi => htried (1 + i) (by omega) (by omega)
    omega

theorem withSuffix_ne (base : String) (n : Nat) : withSuffix base n ≠ base := by
  intro h
  have hlength := congrArg List.length (congrArg String.toList h)
  simp [withSuffix, String.toList_append] at hlength

/-! ## How many names are taken -/

mutual

/-- Every widget of a tree has an id or an own name. -/
theorem length_names_add (path : String) :
    ∀ w : Widget, (userNames w).length + (ownNames path w).length = w.count
  | ⟨type, id, children, styleId, events, properties⟩ => by
    have hchildren := length_namesAll_add path 0 children
    rw [userNames, ownNames, Widget.count]
    cases Widget.givenId? id with
    | some given =>
      simp only [List.length_append, List.length_singleton, List.length_nil]
      omega
    | none =>
      simp only [List.length_append, List.length_singleton, List.length_nil]
      omega

theorem length_namesAll_add (path : String) (index : Nat) :
    ∀ children : List Widget, (userNamesAll children).length +
      (ownNamesAll path index children).length = Widget.countAll children
  | [] => rfl
  | w :: rest => by
    have hfirst := length_names_add (childPath path index) w
    have hrest := length_namesAll_add path (index + 1) rest
    rw [userNamesAll, ownNamesAll, Widget.countAll, List.length_append, List.length_append]
    omega

end

/-- No node brings in more than one suffixed name. -/
theorem length_suffixed_progressAfter (root : Widget) (nodes : List TreeNode) :
    (progressAfter root nodes).taken.suffixed.length ≤ nodes.length := by
  induction nodes using List.reverseRecOn with
  | nil => exact Nat.le_refl 0
  | append_singleton nodes node ih =>
    rw [List.length_append, List.length_singleton]
    exact Nat.le_trans (choice_progressAfter root nodes node).length_suffixed_le
      (Nat.succ_le_succ ih)

theorem size_takenAt_le (root : Widget) (indices : List Nat) :
    (takenAt root indices).size ≤ 2 * root.count := by
  have hknown := length_names_add rootPath root
  have hsuffixed := length_suffixed_progressAfter root
    (root.nodes.takeWhile fun node => node.indices ≠ indices)
  have hbefore : (root.nodes.takeWhile fun node => node.indices ≠ indices).length ≤ root.count := by
    rw [← Widget.length_nodes]
    exact (List.takeWhile_prefix _).length_le
  rw [takenAt, Taken.size, user_progressAfter, own_progressAfter]
  omega

/-! ## The searches of a tree -/

theorem nameAt_eq (root : Widget) (indices : List Nat) (w : Widget) :
    nameAt root indices w =
      match w.userId? with
      | some id => identifier id
      | none => (resolve (takenAt root indices) (ownName w.type (pathOf indices))).1 := by
  rw [nameAt, give, TreeNode.userId?]
  cases w.userId? with
  | some id => rfl
  | none => rfl

/-- **The search for a free suffix always ends early.** Wherever the assignment of a tree is, and
whatever name is claimed by an id, there is a least free suffix among all. It comes no later than one
behind the number of names that are taken, and so than one behind twice the number of nodes. Trying
as many suffixes as there can be names finds it, and what is resolved is the name with this suffix
and not the claimed name. This is how a widget without an id gets its identifier. -/
theorem suffix_search_ends (root : Widget) (indices : List Nat) :
    (∀ base, ∃ n,
      IsLeast {k | 1 ≤ k ∧ (takenAt root indices).contains (withSuffix base k) = false} n ∧
      n ≤ 1 + (takenAt root indices).names.length ∧
      (takenAt root indices).names.length ≤ 2 * root.count ∧
      freeSuffix? (takenAt root indices) base ((takenAt root indices).size + 1) 1 =
        some (withSuffix base n) ∧
      (resolve (takenAt root indices) base).1 =
        (if base ∈ (takenAt root indices).user then withSuffix base n else base) ∧
      withSuffix base n ≠ base) ∧
    (assign (some root)).get? (pathOf indices) =
      (root.at? indices).map fun w =>
        match w.userId? with
        | some id => identifier id
        | none => (resolve (takenAt root indices) (ownName w.type (pathOf indices))).1 := by
  refine ⟨fun base => ?_, ?_⟩
  · obtain ⟨n, hfound, hleast, hbound⟩ := isLeast_of_freeSuffix? (takenAt root indices) base
    have hnames := Nat.le_trans (Taken.length_names_le _) (size_takenAt_le root indices)
    refine ⟨n, hleast, hbound, hnames, hfound, ?_, withSuffix_ne base n⟩
    simp only [resolve, hfound, Option.getD_some, List.contains_iff_mem]
    split <;> rfl
  · rw [get?_pathOf]
    exact congrArg (fun f => (root.at? indices).map f) (funext (nameAt_eq root indices))

end GuardedUi.Name
