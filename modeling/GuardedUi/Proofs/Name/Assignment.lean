import GuardedUi.Proofs.Name.Words

/-!
# `Proofs/Name/Assignment` — the identifiers of a tree

`assign` puts an identifier under the path of every widget. Two things about them are used
wherever documents are concerned:

> **The identifiers are words** (`wordy_assign`), **and no widget is without one** (`named_assign`).

Both are proved along the recursion, the second one with what a later step keeps: paths that have an
identifier go on having one.
-/

set_option autoImplicit false

namespace GuardedUi.Name

/-! ## Identifiers are words -/

/-- All identifiers are words. -/
def Wordy (identifiers : Identifiers) : Prop :=
  ∀ path name, identifiers.get? path = some name → IsWord name

theorem Wordy.put {identifiers : Identifiers} (h : Wordy identifiers) (path : String)
    {name : String} (hn : IsWord name) : Wordy (identifiers.put path name) := by
  intro other value hget
  rw [Bag.get?_put] at hget
  split at hget
  · exact Option.some.inj hget ▸ hn
  · exact h other value hget

mutual

theorem wordy_assignAt {path : String} (hp : IsWord path) {progress : Progress}
    (h : Wordy progress.identifiers) :
    ∀ w : Widget, Wordy (assignAt path progress w).identifiers
  | ⟨type, id, children, _, _, _⟩ => by
    rw [assignAt]
    cases Widget.givenId? id with
    | some id =>
      exact wordy_assignAll hp 0 (h.put path (isWord_identifier id)) children
    | none =>
      exact wordy_assignAll hp 0 (h.put path (isWord_resolve _ (isWord_ownName type hp))) children

theorem wordy_assignAll {path : String} (hp : IsWord path) (index : Nat) {progress : Progress}
    (h : Wordy progress.identifiers) :
    ∀ children : List Widget, Wordy (assignAll path index progress children).identifiers
  | [] => h
  | w :: rest =>
    wordy_assignAll hp (index + 1) (wordy_assignAt (isWord_childPath hp index) h w) rest

end

/-- **The identifiers of a tree are words.** -/
theorem wordy_assign (root : Option Widget) : Wordy (assign root) := by
  cases root with
  | none => intro path name h; simp [assign] at h
  | some root => exact wordy_assignAt isWord_rootPath (fun _ _ h => by simp at h) root

/-! ## No widget is without one -/

mutual

/-- Every widget of the tree at a path has an identifier under its path. -/
def Named (identifiers : Identifiers) (path : String) : Widget → Prop
  | ⟨_, _, children, _, _, _⟩ =>
    path ∈ identifiers.names ∧ NamedAll identifiers path 0 children

/-- So has every widget of the trees among the children of a path, from an index on. -/
def NamedAll (identifiers : Identifiers) (path : String) (index : Nat) : List Widget → Prop
  | [] => True
  | w :: rest =>
    Named identifiers (childPath path index) w ∧ NamedAll identifiers path (index + 1) rest

end

theorem subset_names_put (identifiers : Identifiers) (path name : String) :
    identifiers.names ⊆ (identifiers.put path name).names ∧
      path ∈ (identifiers.put path name).names := by
  by_cases hm : path ∈ identifiers.names
  · rw [Bag.names_put_of_mem hm]
    exact ⟨fun _ h => h, hm⟩
  · rw [Bag.names_put_of_not_mem hm]
    exact ⟨List.subset_append_left _ _, by simp⟩

mutual

theorem subset_names_assignAt (path : String) (progress : Progress) :
    ∀ w : Widget, progress.identifiers.names ⊆ (assignAt path progress w).identifiers.names ∧
      path ∈ (assignAt path progress w).identifiers.names
  | ⟨type, id, children, _, _, _⟩ => by
    rw [assignAt]
    split
    rename_i name taken _
    obtain ⟨hkeep, hpath⟩ := subset_names_put progress.identifiers path name
    have hall := subset_names_assignAll path 0
      { taken, identifiers := progress.identifiers.put path name } children
    exact ⟨fun other ho => hall (hkeep ho), hall hpath⟩

theorem subset_names_assignAll (path : String) (index : Nat) (progress : Progress) :
    ∀ children : List Widget,
      progress.identifiers.names ⊆ (assignAll path index progress children).identifiers.names
  | [] => fun _ h => h
  | w :: rest => fun _ h =>
    subset_names_assignAll path (index + 1) _ rest
      ((subset_names_assignAt (childPath path index) progress w).1 h)

end

mutual

theorem named_of_subset {identifiers identifiers' : Identifiers}
    (h : identifiers.names ⊆ identifiers'.names) {path : String} :
    ∀ {w : Widget}, Named identifiers path w → Named identifiers' path w
  | ⟨_, _, children, _, _, _⟩, hn => by
    rw [Named] at hn ⊢
    exact ⟨h hn.1, namedAll_of_subset h hn.2⟩

theorem namedAll_of_subset {identifiers identifiers' : Identifiers}
    (h : identifiers.names ⊆ identifiers'.names) {path : String} {index : Nat} :
    ∀ {children : List Widget}, NamedAll identifiers path index children →
      NamedAll identifiers' path index children
  | [], _ => by rw [NamedAll]; trivial
  | w :: rest, hn => by
    rw [NamedAll] at hn ⊢
    exact ⟨named_of_subset h hn.1, namedAll_of_subset h hn.2⟩

end

mutual

theorem named_assignAt (path : String) (progress : Progress) :
    ∀ w : Widget, Named (assignAt path progress w).identifiers path w
  | ⟨type, id, children, styleId, events, properties⟩ => by
    rw [Named]
    refine ⟨(subset_names_assignAt path progress _).2, ?_⟩
    rw [assignAt]
    split
    exact namedAll_assignAll path 0 _ children

theorem namedAll_assignAll (path : String) (index : Nat) (progress : Progress) :
    ∀ children : List Widget,
      NamedAll (assignAll path index progress children).identifiers path index children
  | [] => by rw [NamedAll]; trivial
  | w :: rest => by
    rw [NamedAll, assignAll]
    -- The first tree has its identifiers before the others get theirs, and keeps them.
    refine ⟨named_of_subset ?_ (named_assignAt (childPath path index) progress w),
      namedAll_assignAll path (index + 1) _ rest⟩
    exact subset_names_assignAll path (index + 1) _ rest

end

/-- **No widget of a tree is without an identifier.** -/
theorem named_assign (root : Widget) : Named (assign (some root)) rootPath root :=
  named_assignAt rootPath _ root

end GuardedUi.Name
