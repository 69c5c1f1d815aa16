/-!
# `Bag` — finite maps in order of insertion

Event bindings, properties, preserved regions and identifiers are looked up by name and listed in
the order in which they came. A `Bag` is a list of entries with no name twice. Putting a value
under a name that is already there changes the entry where it stands; a new name goes to the end.
-/

set_option autoImplicit false

namespace GuardedUi

/-- A finite map from names to values that remembers the order of its names. -/
structure Bag (α : Type) where
  /-- The names and values, in order. -/
  entries : List (String × α)
  /-- No name stands twice. -/
  distinct : (entries.map Prod.fst).Nodup
  deriving Repr

namespace Bag

variable {α β : Type}

/-! ## Entries -/

/-- The entries after putting a value under a name. -/
def putEntry (name : String) (value : α) : List (String × α) → List (String × α)
  | [] => [(name, value)]
  | (n, v) :: rest => if n = name then (n, value) :: rest else (n, v) :: putEntry name value rest

theorem fst_putEntry_of_mem {name : String} {value : α} {entries : List (String × α)}
    (h : name ∈ entries.map Prod.fst) :
    (putEntry name value entries).map Prod.fst = entries.map Prod.fst := by
  induction entries with
  | nil => simp at h
  | cons entry rest ih =>
    obtain ⟨n, v⟩ := entry
    by_cases hn : n = name
    · simp [putEntry, hn]
    · have hr : name ∈ rest.map Prod.fst := by
        rcases List.mem_cons.1 h with h | h
        · exact absurd h.symm hn
        · exact h
      simp [putEntry, hn, ih hr]

theorem putEntry_of_not_mem {name : String} {value : α} {entries : List (String × α)}
    (h : name ∉ entries.map Prod.fst) :
    putEntry name value entries = entries ++ [(name, value)] := by
  induction entries with
  | nil => rfl
  | cons entry rest ih =>
    obtain ⟨n, v⟩ := entry
    have hn : n ≠ name := fun e => h (by simp [e])
    have hr : name ∉ rest.map Prod.fst := fun m => h (by simp [List.mem_cons, m])
    simp [putEntry, hn, ih hr]

theorem nodup_putEntry {name : String} {value : α} {entries : List (String × α)}
    (h : (entries.map Prod.fst).Nodup) :
    ((putEntry name value entries).map Prod.fst).Nodup := by
  by_cases hm : name ∈ entries.map Prod.fst
  · rw [fst_putEntry_of_mem hm]
    exact h
  · rw [putEntry_of_not_mem hm, List.map_append, List.nodup_append]
    refine ⟨h, by simp, ?_⟩
    intro a ha b hb hab
    simp only [List.map_cons, List.map_nil, List.mem_singleton] at hb
    exact hm (hb ▸ hab ▸ ha)

/-- Keeping some entries keeps some names, in the same order. -/
theorem sublist_filterMap (f : String → α → Option β) (entries : List (String × α)) :
    ((entries.filterMap fun entry => (f entry.1 entry.2).map fun value => (entry.1, value)).map
      Prod.fst).Sublist (entries.map Prod.fst) := by
  induction entries with
  | nil => simp
  | cons entry rest ih =>
    obtain ⟨n, v⟩ := entry
    cases hf : f n v with
    | none => simpa [List.filterMap_cons, hf] using ih.cons n
    | some w => simpa [List.filterMap_cons, hf] using ih

theorem eq_of_entries {a b : Bag α} (h : a.entries = b.entries) : a = b := by
  cases a
  cases b
  obtain rfl := h
  rfl

/-! ## Operations -/

def empty : Bag α :=
  ⟨[], by simp⟩

instance : Inhabited (Bag α) :=
  ⟨empty⟩

def put (bag : Bag α) (name : String) (value : α) : Bag α :=
  ⟨putEntry name value bag.entries, nodup_putEntry bag.distinct⟩

/-- The bag that results from putting entries one after the other. -/
def ofList (entries : List (String × α)) : Bag α :=
  entries.foldl (fun bag entry => bag.put entry.1 entry.2) empty

/-- The entries that `f` keeps, with the values that it gives them. -/
def filterMap (bag : Bag α) (f : String → α → Option β) : Bag β :=
  ⟨bag.entries.filterMap fun entry => (f entry.1 entry.2).map fun value => (entry.1, value),
    bag.distinct.sublist (sublist_filterMap f bag.entries)⟩

def get? (bag : Bag α) (name : String) : Option α :=
  bag.entries.lookup name

def contains (bag : Bag α) (name : String) : Bool :=
  (bag.get? name).isSome

def names (bag : Bag α) : List String :=
  bag.entries.map Prod.fst

def values (bag : Bag α) : List α :=
  bag.entries.map Prod.snd

def size (bag : Bag α) : Nat :=
  bag.entries.length

def isEmpty (bag : Bag α) : Bool :=
  bag.entries.isEmpty

/-! ## Looking up what was put

`get?` is the view of a bag through which all other modules see it. These laws say what the
operations do to it; the order of the names is said by `names_put_of_mem` and `names_put_of_not_mem`. -/

theorem lookup_putEntry (name : String) (value : α) (entries : List (String × α)) (other : String) :
    (putEntry name value entries).lookup other =
      if other = name then some value else entries.lookup other := by
  induction entries with
  | nil =>
    by_cases h : other = name
    · simp [putEntry, h]
    · have hb : (other == name) = false := beq_eq_false_iff_ne.2 h
      simp [putEntry, h, List.lookup_cons, hb]
  | cons entry rest ih =>
    obtain ⟨n, v⟩ := entry
    by_cases ho : other = n
    · subst ho
      by_cases hn : other = name
      · simp [putEntry, hn]
      · simp [putEntry, hn]
    · have hb : (other == n) = false := beq_eq_false_iff_ne.2 ho
      by_cases hn : n = name
      · subst hn
        simp [putEntry, List.lookup_cons, hb, ho]
      · simp [putEntry, hn, List.lookup_cons, hb, ih]

theorem get?_put (bag : Bag α) (name : String) (value : α) (other : String) :
    (bag.put name value).get? other = if other = name then some value else bag.get? other :=
  lookup_putEntry name value bag.entries other

@[simp] theorem get?_empty (name : String) : (empty : Bag α).get? name = none := rfl

theorem names_put_of_mem {bag : Bag α} {name : String} {value : α} (h : name ∈ bag.names) :
    (bag.put name value).names = bag.names :=
  fst_putEntry_of_mem h

theorem names_put_of_not_mem {bag : Bag α} {name : String} {value : α} (h : name ∉ bag.names) :
    (bag.put name value).names = bag.names ++ [name] := by
  simp [names, put, putEntry_of_not_mem h]

/-! ## Entries and look-ups

No name stands twice, so looking up a name and finding its entry are the same. -/

theorem lookup_eq_some_iff {entries : List (String × α)} (h : (entries.map Prod.fst).Nodup)
    {name : String} {value : α} : entries.lookup name = some value ↔ (name, value) ∈ entries := by
  induction entries with
  | nil => simp
  | cons entry rest ih =>
    obtain ⟨n, v⟩ := entry
    rw [List.map_cons, List.nodup_cons] at h
    by_cases hn : name = n
    · subst hn
      have hr : (name, value) ∉ rest := fun hm => h.1 (List.mem_map.2 ⟨_, hm, rfl⟩)
      simp [hr, eq_comm]
    · have hb : (name == n) = false := beq_eq_false_iff_ne.2 hn
      simp [List.lookup_cons, hb, hn, ih h.2]

theorem get?_eq_some_iff {bag : Bag α} {name : String} {value : α} :
    bag.get? name = some value ↔ (name, value) ∈ bag.entries :=
  lookup_eq_some_iff bag.distinct

theorem get?_eq_none_iff {bag : Bag α} {name : String} : bag.get? name = none ↔ name ∉ bag.names := by
  rw [Option.eq_none_iff_forall_ne_some]
  constructor
  · intro h hm
    obtain ⟨entry, he, rfl⟩ := List.mem_map.1 hm
    exact h entry.2 (get?_eq_some_iff.2 he)
  · intro h value hv
    exact h (List.mem_map_of_mem (get?_eq_some_iff.1 hv))

/-- The order of the entries is of no account. -/
theorem get?_of_perm {bag bag' : Bag α} (h : bag.entries.Perm bag'.entries) (name : String) :
    bag.get? name = bag'.get? name := by
  refine Option.ext fun value => ?_
  rw [get?_eq_some_iff, get?_eq_some_iff]
  exact h.mem_iff

theorem entries_filterMap (bag : Bag α) (f : String → α → Option β) :
    (bag.filterMap f).entries =
      bag.entries.filterMap fun entry => (f entry.1 entry.2).map fun value => (entry.1, value) :=
  rfl

theorem mem_filterMap {bag : Bag α} {f : String → α → Option β} {name : String} {result : β} :
    (name, result) ∈ (bag.filterMap f).entries ↔
      ∃ value, (name, value) ∈ bag.entries ∧ f name value = some result := by
  simp only [filterMap, List.mem_filterMap, Option.map_eq_some_iff]
  constructor
  · rintro ⟨⟨n, value⟩, hmem, result', hresult, heq⟩
    obtain ⟨rfl, rfl⟩ := Prod.mk.inj heq
    exact ⟨value, hmem, hresult⟩
  · rintro ⟨value, hmem, hresult⟩
    exact ⟨(name, value), hmem, result, hresult, rfl⟩

theorem get?_filterMap (bag : Bag α) (f : String → α → Option β) (name : String) :
    (bag.filterMap f).get? name = (bag.get? name).bind (f name) := by
  refine Option.ext fun result => ?_
  rw [get?_eq_some_iff, mem_filterMap, Option.bind_eq_some_iff]
  simp only [get?_eq_some_iff]

theorem entries_foldl_put {entries : List (String × α)} (bag : Bag α)
    (h : (bag.names ++ entries.map Prod.fst).Nodup) :
    (entries.foldl (fun bag entry => bag.put entry.1 entry.2) bag).entries =
      bag.entries ++ entries := by
  induction entries generalizing bag with
  | nil => simp
  | cons entry rest ih =>
    obtain ⟨name, value⟩ := entry
    have hn : name ∉ bag.names := fun hm =>
      (List.nodup_append.1 h).2.2 name hm name (by simp) rfl
    have hput : (bag.put name value).entries = bag.entries ++ [(name, value)] :=
      putEntry_of_not_mem hn
    rw [List.foldl_cons, ih (bag.put name value), hput, List.append_assoc, List.singleton_append]
    rw [names_put_of_not_mem hn, List.append_assoc]
    exact h

theorem mem_of_mem_putEntry {name : String} {value : α} {entries : List (String × α)}
    {entry : String × α} (h : entry ∈ putEntry name value entries) :
    entry = (name, value) ∨ entry ∈ entries := by
  induction entries with
  | nil => exact Or.inl (List.mem_singleton.1 h)
  | cons first rest ih =>
    obtain ⟨n, v⟩ := first
    rw [putEntry] at h
    split at h
    · rename_i hn
      subst hn
      exact (List.mem_cons.1 h).imp_right (List.mem_cons_of_mem _)
    · rcases List.mem_cons.1 h with rfl | h
      · exact Or.inr List.mem_cons_self
      · exact (ih h).imp_right (List.mem_cons_of_mem _)

theorem mem_of_mem_foldl_put {entries : List (String × α)} {bag : Bag α} {entry : String × α}
    (h : entry ∈ (entries.foldl (fun bag entry => bag.put entry.1 entry.2) bag).entries) :
    entry ∈ bag.entries ∨ entry ∈ entries := by
  induction entries generalizing bag with
  | nil => exact Or.inl h
  | cons first rest ih =>
    rcases ih h with h | h
    · rcases mem_of_mem_putEntry h with rfl | h
      · exact Or.inr List.mem_cons_self
      · exact Or.inl h
    · exact Or.inr (List.mem_cons_of_mem _ h)

/-- Nothing is in a bag that was not put there. -/
theorem mem_of_mem_ofList {entries : List (String × α)} {entry : String × α}
    (h : entry ∈ (ofList entries).entries) : entry ∈ entries :=
  (mem_of_mem_foldl_put h).resolve_left List.not_mem_nil

/-- Entries under different names are kept as they are. -/
theorem entries_ofList {entries : List (String × α)} (h : (entries.map Prod.fst).Nodup) :
    (ofList entries).entries = entries :=
  entries_foldl_put empty h

end Bag

end GuardedUi
