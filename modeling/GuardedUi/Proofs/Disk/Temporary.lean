import GuardedUi.Proofs.Disk.Node

/-!
# `Proofs/Disk/Temporary` — a file that is put in place by moving it

A document is written to a new file in the same folder, and that file is moved over the old one; if
it cannot be moved, it is removed again. `Disk.putThrough` takes these steps one by one.

> **The new file leaves no trace** (`putThrough_eq`): either the file is in its place as if it had been
> put there at once, or the disk is what it was.

At a place where there is something, getting and putting obey the laws of a field of a record
(`put_get`, `put_put`), so what happens inside a folder is a matter of the list of its entries.
-/

set_option autoImplicit false

namespace GuardedUi

namespace Bag

variable {α : Type} {entries : List (String × α)} {name other : String} {value : α}

theorem putEntry_of_lookup (h : entries.lookup name = some value) :
    putEntry name value entries = entries := by
  induction entries with
  | nil => simp at h
  | cons entry rest ih =>
    obtain ⟨n, v⟩ := entry
    by_cases hn : n = name
    · subst hn
      rw [List.lookup_cons_self, Option.some.injEq] at h
      rw [putEntry, if_pos rfl, h]
    · have hne : (name == n) = false := by simpa using Ne.symm hn
      simp only [List.lookup_cons, hne] at h
      rw [putEntry, if_neg hn, ih h]

theorem putEntry_putEntry (first second : α) :
    putEntry name second (putEntry name first entries) = putEntry name second entries := by
  induction entries with
  | nil => simp [putEntry]
  | cons entry rest ih =>
    obtain ⟨n, v⟩ := entry
    by_cases hn : n = name
    · simp [putEntry, hn]
    · simp [putEntry, hn, ih]

theorem filter_putEntry_self (h : entries.lookup name = none) (value : α) :
    (putEntry name value entries).filter (fun entry => entry.1 != name) = entries := by
  induction entries with
  | nil => simp [putEntry]
  | cons entry rest ih =>
    obtain ⟨n, v⟩ := entry
    by_cases hn : n = name
    · subst hn
      rw [List.lookup_cons_self] at h
      exact absurd h (by simp)
    · have hne : (name == n) = false := by simpa using Ne.symm hn
      simp only [List.lookup_cons, hne] at h
      rw [putEntry, if_neg hn, List.filter_cons_of_pos (by simpa using hn), ih h]

theorem filter_putEntry_of_ne (h : other ≠ name) (value : α) :
    (putEntry name value entries).filter (fun entry => entry.1 != other) =
      putEntry name value (entries.filter fun entry => entry.1 != other) := by
  induction entries with
  | nil => simp [putEntry, h.symm]
  | cons entry rest ih =>
    obtain ⟨n, v⟩ := entry
    by_cases hn : n = name
    · subst hn
      simp [putEntry, h.symm]
    · rw [putEntry, if_neg hn]
      by_cases hother : n = other
      · simp [hother, ih]
      · rw [List.filter_cons_of_pos (by simpa using hother),
          List.filter_cons_of_pos (by simpa using hother), putEntry, if_neg hn, ih]

end Bag

namespace Entry

variable {e x : Entry} {front : Location}

/-! ## A place as a field -/

theorem put_get (h : e.get? front = some x) : e.put front x = e := by
  induction front generalizing e with
  | nil =>
    obtain rfl : e = x := by simpa [get?] using h
    rw [put_nil]
  | cons name rest ih =>
    cases e with
    | file bytes => rfl
    | folder entries =>
      rw [get?] at h
      cases hlookup : entries.lookup name with
      | none => simp [hlookup] at h
      | some below =>
        rw [hlookup] at h
        rw [put_of_some hlookup, ih h, Bag.putEntry_of_lookup hlookup]

theorem get?_put (h : e.get? front = some x) (new : Entry) :
    (e.put front new).get? front = some new := by
  have hput := get?_put_of_some h [] new
  rwa [List.append_nil, put_nil] at hput

theorem put_put (h : e.get? front = some x) (first second : Entry) :
    (e.put front first).put front second = e.put front second := by
  induction front generalizing e with
  | nil => simp only [put_nil]
  | cons name rest ih =>
    cases e with
    | file bytes => rfl
    | folder entries =>
      rw [get?] at h
      cases hlookup : entries.lookup name with
      | none => simp [hlookup] at h
      | some below =>
        rw [hlookup] at h
        have hnow : (Bag.putEntry name (below.put rest first) entries).lookup name =
            some (below.put rest first) := by rw [Bag.lookup_putEntry, if_pos rfl]
        rw [put_of_some hlookup, put_of_some hnow, put_of_some hlookup, ih h,
          Bag.putEntry_putEntry]

/-- What is put below a place is put into what is there. -/
theorem put_append (h : e.get? front = some x) (back : Location) (new : Entry) :
    e.put (front ++ back) new = e.put front (x.put back new) := by
  induction front generalizing e with
  | nil =>
    obtain rfl : e = x := by simpa [get?] using h
    rw [put_nil]
    rfl
  | cons name rest ih =>
    cases e with
    | file bytes => rfl
    | folder entries =>
      rw [get?] at h
      cases hlookup : entries.lookup name with
      | none => simp [hlookup] at h
      | some below =>
        rw [hlookup] at h
        rw [List.cons_append, put_of_some hlookup, put_of_some hlookup, ih h]

theorem erase_of_some {entries : List (String × Entry)} {name : String} {below : Entry}
    (h : entries.lookup name = some below) {rest : Location} (hrest : rest ≠ []) :
    (folder entries).erase (name :: rest) =
      .folder (Bag.putEntry name (below.erase rest) entries) := by
  cases rest with
  | nil => exact absurd rfl hrest
  | cons second rest => simp [erase, h]

theorem erase_append (h : e.get? front = some x) {back : Location} (hback : back ≠ []) :
    e.erase (front ++ back) = e.put front (x.erase back) := by
  induction front generalizing e with
  | nil =>
    obtain rfl : e = x := by simpa [get?] using h
    rw [put_nil]
    rfl
  | cons name rest ih =>
    cases e with
    | file bytes => simp [get?] at h
    | folder entries =>
      rw [get?] at h
      cases hlookup : entries.lookup name with
      | none => simp [hlookup] at h
      | some below =>
        rw [hlookup] at h
        rw [List.cons_append, erase_of_some hlookup (by simp [hback]), put_of_some hlookup, ih h]

theorem erase_singleton (entries : List (String × Entry)) (name : String) :
    (folder entries).erase [name] = .folder (entries.filter fun entry => entry.1 != name) := by
  simp [erase]

end Entry

namespace Disk

/-- Moves a file to another place, over a file that is there. -/
def moveFile (disk : Disk) (source target : Location) : Except DiskError Disk :=
  match disk.get? source with
  | none => .error .missing
  | some (.folder _) => .error .notFile
  | some (.file bytes) =>
    if disk.isFolderAt target then .error .notFile
    else .ok ((disk.put target (.file bytes)).erase source)

/-- Puts a file into a folder by way of a new one beside it. -/
def putThrough (disk : Disk) (folder : Location) (temporary name : String) (bytes : List UInt8) :
    Except DiskError Unit × Disk :=
  let filled := disk.put (folder ++ [temporary]) (.file bytes)
  match filled.moveFile (folder ++ [temporary]) (folder ++ [name]) with
  | .ok moved => (.ok (), moved)
  | .error e => (.error e, filled.erase (folder ++ [temporary]))

variable {disk : Disk} {folder : Location} {temporary name : String}

theorem exists_entries (hfolder : disk.node? folder = some .folder)
    (hnew : disk.node? (folder ++ [temporary]) = none) :
    ∃ entries, disk.root.get? folder = some (.folder entries) ∧
      entries.lookup temporary = none := by
  obtain ⟨entries, hget⟩ := exists_get?_of_folder hfolder
  refine ⟨entries, hget, ?_⟩
  rw [node?, get?_append, hget, Option.map_eq_none_iff, Option.bind_some, Entry.get?] at hnew
  cases hlookup : entries.lookup temporary with
  | none => rfl
  | some entry =>
    rw [hlookup] at hnew
    simp [Entry.get?] at hnew

theorem erase_put (hfolder : disk.node? folder = some .folder)
    (hnew : disk.node? (folder ++ [temporary]) = none) (new : Entry) :
    (disk.put (folder ++ [temporary]) new).erase (folder ++ [temporary]) = disk := by
  obtain ⟨entries, hget, hlookup⟩ := exists_entries hfolder hnew
  refine congrArg Disk.mk ?_
  calc (disk.root.put (folder ++ [temporary]) new).erase (folder ++ [temporary])
    _ = (disk.root.put folder (.folder (Bag.putEntry temporary new entries))).erase
          (folder ++ [temporary]) := by rw [Entry.put_append hget, Entry.put_singleton]
    _ = disk.root.put folder (.folder entries) := by
      rw [Entry.erase_append (Entry.get?_put hget _) (by simp), Entry.put_put hget,
        Entry.erase_singleton, Bag.filter_putEntry_self hlookup]
    _ = disk.root := Entry.put_get hget

theorem erase_put_put (hfolder : disk.node? folder = some .folder)
    (hnew : disk.node? (folder ++ [temporary]) = none) (hne : temporary ≠ name) (new : Entry) :
    ((disk.put (folder ++ [temporary]) new).put (folder ++ [name]) new).erase
      (folder ++ [temporary]) = disk.put (folder ++ [name]) new := by
  obtain ⟨entries, hget, hlookup⟩ := exists_entries hfolder hnew
  refine congrArg Disk.mk ?_
  let filled := Bag.putEntry name new (Bag.putEntry temporary new entries)
  calc ((disk.root.put (folder ++ [temporary]) new).put (folder ++ [name]) new).erase
        (folder ++ [temporary])
    _ = (disk.root.put folder (.folder filled)).erase (folder ++ [temporary]) := by
      rw [Entry.put_append hget, Entry.put_singleton, Entry.put_append (Entry.get?_put hget _),
        Entry.put_singleton, Entry.put_put hget]
    _ = disk.root.put folder (.folder (Bag.putEntry name new entries)) := by
      rw [Entry.erase_append (Entry.get?_put hget _) (by simp), Entry.put_put hget,
        Entry.erase_singleton, Bag.filter_putEntry_of_ne hne, Bag.filter_putEntry_self hlookup]
    _ = disk.root.put (folder ++ [name]) new := by
      rw [Entry.put_append hget, Entry.put_singleton]

/-- **The new file leaves no trace.** -/
theorem putThrough_eq (hfolder : disk.node? folder = some .folder)
    (hnew : disk.node? (folder ++ [temporary]) = none) (hne : temporary ≠ name)
    (bytes : List UInt8) :
    disk.putThrough folder temporary name bytes =
      if disk.node? (folder ++ [name]) = some .folder then (.error .notFile, disk)
      else (.ok (), disk.put (folder ++ [name]) (.file bytes)) := by
  have hnode := node?_put (.file bytes) hfolder (by rw [hnew]; simp) fun _ _ => rfl
  have hget : (disk.put (folder ++ [temporary]) (.file bytes)).get? (folder ++ [temporary]) =
      some (.file bytes) := exists_get?_of_file ((hnode _).trans (if_pos rfl))
  have htarget : (disk.put (folder ++ [temporary]) (.file bytes)).isFolderAt (folder ++ [name]) =
      true ↔ disk.node? (folder ++ [name]) = some .folder := by
    rw [isFolderAt_iff, hnode, if_neg (by simpa using hne.symm)]
  rw [putThrough]
  simp only [moveFile, hget, htarget]
  by_cases hplace : disk.node? (folder ++ [name]) = some .folder
  · simp only [if_pos hplace, erase_put hfolder hnew]
  · simp only [if_neg hplace, erase_put_put hfolder hnew hne]

end Disk

end GuardedUi
