import GuardedUi.Bag
import GuardedUi.Event
import Mathlib.Data.List.Basic
import Mathlib.Data.List.Induction

/-!
# `Proofs/Firsts` — lists that take every name once

Bags and stubs collect names in the same way: a new name goes to the end, and a name that is already
there changes nothing. So what they hold after any number of steps depends on the names alone:

> **It is every name, once, in the order of the first occurrences** (`mem_firsts`,
> `inFirstOrder_firsts`).
-/

set_option autoImplicit false

namespace GuardedUi

/-- The names with one more, if it is a new one. -/
def addNew (names : List String) (name : String) : List String :=
  if name ∈ names then names else names ++ [name]

/-- Every name of a list, once. -/
def firsts (all : List String) : List String :=
  all.foldl addNew []

/-- The names come in the order in which they first occur in `all`, and none of them twice. -/
def InFirstOrder (all names : List String) : Prop :=
  names.Pairwise fun a b => all.idxOf a < all.idxOf b

theorem mem_addNew {names : List String} {name other : String} :
    other ∈ addNew names name ↔ other ∈ names ∨ other = name := by
  rw [addNew]
  split
  · rename_i hm
    constructor
    · exact Or.inl
    · rintro (ho | rfl)
      · exact ho
      · exact hm
  · simp

theorem firsts_concat (all : List String) (name : String) :
    firsts (all ++ [name]) = addNew (firsts all) name := by
  simp [firsts]

theorem mem_firsts {all : List String} {name : String} : name ∈ firsts all ↔ name ∈ all := by
  induction all using List.reverseRecOn with
  | nil => simp [firsts]
  | append_singleton all last ih => simp [firsts_concat, mem_addNew, ih]

/-- A name that occurs does so first in the same place, whatever stands behind. -/
theorem InFirstOrder.append {all names : List String} (h : InFirstOrder all names)
    (hmem : ∀ name ∈ names, name ∈ all) (more : List String) :
    InFirstOrder (all ++ more) names := by
  refine List.Pairwise.imp_of_mem ?_ h
  intro a b ha hb hlt
  rwa [List.idxOf_append_of_mem (hmem a ha), List.idxOf_append_of_mem (hmem b hb)]

/-- **The names are in the order of their first occurrences.** -/
theorem inFirstOrder_firsts (all : List String) : InFirstOrder all (firsts all) := by
  induction all using List.reverseRecOn with
  | nil => exact List.Pairwise.nil
  | append_singleton all last ih =>
    have hkept := ih.append (fun name h => mem_firsts.mp h) [last]
    rw [firsts_concat, addNew]
    split
    · exact hkept
    · rename_i hnew
      -- The new name occurs behind all that were there.
      rw [mem_firsts] at hnew
      refine List.pairwise_append.mpr ⟨hkept, List.pairwise_singleton _ _, ?_⟩
      intro a ha b hb
      obtain rfl := List.mem_singleton.mp hb
      have hmem := mem_firsts.mp ha
      rw [List.idxOf_append_of_mem hmem, List.idxOf_append_of_notMem hnew]
      exact Nat.lt_of_lt_of_le (List.idxOf_lt_length_of_mem hmem) (Nat.le_add_right _ _)

theorem firsts_eq_self {all : List String} (h : all.Nodup) : firsts all = all := by
  induction all using List.reverseRecOn with
  | nil => rfl
  | append_singleton all last ih =>
    obtain ⟨hall, -, hlast⟩ := List.nodup_append.mp h
    have hnew : last ∉ all := fun hm => hlast last hm last (List.mem_singleton_self last) rfl
    rw [firsts_concat, ih hall, addNew, if_neg hnew]

theorem InFirstOrder.nodup {all names : List String} (h : InFirstOrder all names) :
    names.Nodup := by
  refine List.Pairwise.imp ?_ h
  rintro a b hlt rfl
  exact Nat.lt_irrefl _ hlt

/-! ## Bags -/

namespace Bag

variable {α : Type}

theorem names_put (bag : Bag α) (name : String) (value : α) :
    (bag.put name value).names = addNew bag.names name := by
  rw [addNew]
  split
  · rename_i hm
    exact names_put_of_mem hm
  · rename_i hm
    exact names_put_of_not_mem hm

theorem names_ofList (entries : List (String × α)) :
    (ofList entries).names = firsts (entries.map Prod.fst) := by
  have hfold : ∀ bag : Bag α,
      (entries.foldl (fun bag entry => bag.put entry.1 entry.2) bag).names =
        (entries.map Prod.fst).foldl addNew bag.names := by
    induction entries with
    | nil => exact fun _ => rfl
    | cons entry rest ih =>
      intro bag
      rw [List.foldl_cons, ih, names_put]
      rfl
  exact hfold empty

/-- Looking up the names of a bag gives its values, in order. -/
theorem map_get?_names (bag : Bag α) : bag.names.map bag.get? = bag.values.map some := by
  rw [names, values, List.map_map, List.map_map]
  exact List.map_congr_left fun entry he => get?_eq_some_iff.mpr he

end Bag

/-! ## Stubs -/

namespace Stubs

theorem names_insert (stubs : Stubs) (r : Registration) :
    (stubs.insert r).names = if r.isStub then addNew stubs.names r.handler else stubs.names := by
  rw [insert, addNew]
  by_cases hstub : r.isStub = true
  · by_cases hm : r.handler ∈ stubs.names
    · simp [accepts, hstub, hm]
    · simp [accepts, hstub, hm]
  · simp [accepts, hstub]

/-- The stubs of registrations are the names of those that are stubs, each once. -/
theorem names_insertAll (registrations : List Registration) :
    (empty.insertAll registrations).names =
      firsts ((registrations.filter Registration.isStub).map Registration.handler) := by
  have hfold : ∀ stubs : Stubs, (stubs.insertAll registrations).names =
      ((registrations.filter Registration.isStub).map Registration.handler).foldl addNew
        stubs.names := by
    induction registrations with
    | nil => exact fun _ => rfl
    | cons r rest ih =>
      intro stubs
      have hnext : (stubs.insertAll (r :: rest)) = (stubs.insert r).insertAll rest := rfl
      rw [hnext, ih, names_insert]
      cases hstub : r.isStub with
      | true => simp [hstub]
      | false => simp [hstub]
  exact hfold empty

end Stubs

end GuardedUi
