import GuardedUi.Json.Value
import Mathlib.Data.List.Basic

/-!
# `Proofs/Json/Sorting` — records in the order of their names

A record that was read as a value has its fields in ascending order, no name twice, because every
field is put in its place among those before it:

> **Sorted fields are in order** (`sorted_sortFields`), **and sorting them again changes nothing**
> (`sortFields_eq_self`).

Names are compared as lists of characters, so the order and its laws are those of the library.
-/

set_option autoImplicit false

namespace GuardedUi.Json

theorem nameBefore_iff : ∀ {a b : List Char}, nameBefore a b = true ↔ a < b
  | [], [] => by simp [nameBefore]
  | [], _ :: _ => by simp [nameBefore]
  | _ :: _, [] => by simp [nameBefore]
  | a :: as, b :: bs => by
    rw [nameBefore, List.cons_lt_cons_iff]
    split
    · rename_i heq
      subst heq
      simp [nameBefore_iff]
    · rename_i hne
      simp only [hne, decide_eq_true_eq, false_and, or_false]
      rfl

/-- The fields stand in the order of their names, and no name stands twice. -/
def Sorted {α : Type} (fields : List (String × α)) : Prop :=
  fields.Pairwise fun a b => a.1.toList < b.1.toList

section

variable {α : Type} {name : String} {value : α} {fields : List (String × α)}

theorem mem_putSorted {field : String × α} (h : field ∈ putSorted name value fields) :
    field = (name, value) ∨ field ∈ fields := by
  induction fields with
  | nil => exact Or.inl (List.mem_singleton.mp h)
  | cons first rest ih =>
    obtain ⟨n, v⟩ := first
    rw [putSorted] at h
    split at h
    · rcases List.mem_cons.mp h with rfl | h
      · exact Or.inl rfl
      · exact Or.inr (List.mem_cons_of_mem _ h)
    · split at h
      · exact List.mem_cons.mp h
      · rcases List.mem_cons.mp h with rfl | h
        · exact Or.inr List.mem_cons_self
        · exact (ih h).imp_right (List.mem_cons_of_mem _)

theorem lookup_cons_eq (name : String) (value : α) (fields : List (String × α)) (other : String) :
    ((name, value) :: fields).lookup other =
      if other = name then some value else fields.lookup other := by
  rw [List.lookup_cons]
  by_cases h : other = name
  · rw [if_pos h, beq_iff_eq.mpr h]
  · rw [if_neg h, beq_eq_false_iff_ne.mpr h]

/-- What is under a name after a field was put in its place, whether the others are in order or
not. -/
theorem lookup_putSorted (name : String) (value : α) (fields : List (String × α))
    (other : String) : (putSorted name value fields).lookup other =
      if other = name then some value else fields.lookup other := by
  induction fields with
  | nil => exact lookup_cons_eq name value [] other
  | cons first rest ih =>
    obtain ⟨n, v⟩ := first
    rw [putSorted]
    split
    · rename_i hname
      subst hname
      rw [lookup_cons_eq, lookup_cons_eq]
      by_cases ho : other = n
      · rw [if_pos ho, if_pos ho]
      · rw [if_neg ho, if_neg ho, if_neg ho]
    · rename_i hname
      split
      · exact lookup_cons_eq name value _ other
      · rw [lookup_cons_eq, lookup_cons_eq, ih]
        by_cases ho : other = n
        · have hne : other ≠ name := ho ▸ hname
          rw [if_pos ho, if_neg hne, if_pos ho]
        · rw [if_neg ho, if_neg ho]

theorem sorted_putSorted (h : Sorted fields) : Sorted (putSorted name value fields) := by
  induction fields with
  | nil => exact List.pairwise_singleton _ _
  | cons first rest ih =>
    obtain ⟨n, v⟩ := first
    obtain ⟨hfirst, hrest⟩ := List.pairwise_cons.mp h
    rw [putSorted]
    split
    · rename_i hname
      subst hname
      exact List.pairwise_cons.mpr ⟨hfirst, hrest⟩
    · rename_i hname
      split
      · -- The new field comes before the first one, and so before all the others.
        rename_i hbefore
        have hlt := nameBefore_iff.mp hbefore
        refine List.pairwise_cons.mpr ⟨fun field hm => ?_, h⟩
        rcases List.mem_cons.mp hm with rfl | hm
        · exact hlt
        · exact List.lt_trans hlt (hfirst field hm)
      · rename_i hbefore
        have hlt : n.toList < name.toList := by
          rw [nameBefore_iff, List.not_lt] at hbefore
          by_contra hnot
          exact hname (String.toList_injective (List.le_antisymm hbefore (List.not_lt.mp hnot)))
        refine List.pairwise_cons.mpr ⟨fun field hm => ?_, ih hrest⟩
        rcases mem_putSorted hm with rfl | hm
        · exact hlt
        · exact hfirst field hm

/-- A name behind all others goes to the end. -/
theorem putSorted_of_forall_lt (h : ∀ field ∈ fields, field.1.toList < name.toList) :
    putSorted name value fields = fields ++ [(name, value)] := by
  induction fields with
  | nil => rfl
  | cons first rest ih =>
    obtain ⟨n, v⟩ := first
    have hlt : n.toList < name.toList := h (n, v) List.mem_cons_self
    have hne : n ≠ name := by
      rintro rfl
      exact List.lt_irrefl _ hlt
    have hafter : ¬ nameBefore name.toList n.toList = true := by
      rw [nameBefore_iff]
      exact List.lt_asymm hlt
    rw [putSorted, if_neg hne, if_neg hafter,
      ih fun field hm => h field (List.mem_cons_of_mem _ hm)]
    rfl

theorem sorted_foldl_putSorted {sorted : List (String × α)} (h : Sorted sorted) :
    Sorted (fields.foldl (fun sorted field => putSorted field.1 field.2 sorted) sorted) := by
  induction fields generalizing sorted with
  | nil => exact h
  | cons first rest ih => exact ih (sorted_putSorted h)

theorem mem_foldl_putSorted {sorted : List (String × α)} {field : String × α}
    (h : field ∈ fields.foldl (fun sorted field => putSorted field.1 field.2 sorted) sorted) :
    field ∈ sorted ∨ field ∈ fields := by
  induction fields generalizing sorted with
  | nil => exact Or.inl h
  | cons first rest ih =>
    rcases ih h with h | h
    · exact (mem_putSorted h).elim (fun heq => Or.inr (heq ▸ List.mem_cons_self)) Or.inl
    · exact Or.inr (List.mem_cons_of_mem _ h)

theorem foldl_putSorted_of_sorted (sorted : List (String × α)) (h : Sorted (sorted ++ fields)) :
    fields.foldl (fun sorted field => putSorted field.1 field.2 sorted) sorted =
      sorted ++ fields := by
  induction fields generalizing sorted with
  | nil => exact (List.append_nil _).symm
  | cons first rest ih =>
    have hlt : ∀ field ∈ sorted, field.1.toList < first.1.toList :=
      fun field hm => (List.pairwise_append.mp h).2.2 field hm first List.mem_cons_self
    have hshift : sorted ++ first :: rest = sorted ++ [first] ++ rest := by simp
    rw [List.foldl_cons, putSorted_of_forall_lt hlt, hshift]
    exact ih (sorted ++ [first]) (hshift ▸ h)

/-- **Sorted fields are in order.** -/
theorem sorted_sortFields (fields : List (String × α)) : Sorted (sortFields fields) :=
  sorted_foldl_putSorted List.Pairwise.nil

theorem mem_of_mem_sortFields {field : String × α} (h : field ∈ sortFields fields) :
    field ∈ fields :=
  (mem_foldl_putSorted h).resolve_left List.not_mem_nil

/-- **Sorting what is in order changes nothing.** -/
theorem sortFields_eq_self (h : Sorted fields) : sortFields fields = fields :=
  foldl_putSorted_of_sorted [] h

end

/-- Only the names count. -/
theorem sorted_iff_names {α : Type} {fields : List (String × α)} :
    Sorted fields ↔ (fields.map Prod.fst).Pairwise fun a b => a.toList < b.toList := by
  rw [Sorted, List.pairwise_map]

end GuardedUi.Json
