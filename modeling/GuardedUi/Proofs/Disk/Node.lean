import GuardedUi.Disk.Basic

/-!
# `Proofs/Disk/Node` — what stands where on a disk

A disk is a tree, and putting something into it rebuilds the way from the root to a place. The view
of a disk is `node?`, which says for every place by itself whether a file with its bytes stands there,
a folder, or nothing.

> **Putting a file or an empty folder changes what stands at its place and nothing else**
> (`node?_put`), if it is put into a folder and not over one.

Whatever follows paths sees a disk through this view only. `Keeps` is what has to be known of two
disks so that a path leads to the same place on both.
-/

set_option autoImplicit false

namespace GuardedUi

/-- What stands at a place, without what is below it. -/
inductive Node where
  | file (bytes : List UInt8)
  | folder
  deriving DecidableEq, Repr

namespace Entry

def node : Entry → Node
  | .file bytes => .file bytes
  | .folder _ => .folder

/-! ## Entries below entries -/

theorem get?_append (e : Entry) (front back : Location) :
    e.get? (front ++ back) = (e.get? front).bind fun below => below.get? back := by
  induction front generalizing e with
  | nil => simp [get?]
  | cons name rest ih =>
    cases e with
    | file bytes => rfl
    | folder entries =>
      rw [List.cons_append, get?, get?]
      cases entries.lookup name with
      | none => rfl
      | some below => exact ih below

theorem put_nil (e new : Entry) : e.put [] new = new := by
  cases e <;> rfl

theorem put_of_some {entries : List (String × Entry)} {name : String} {below : Entry}
    (h : entries.lookup name = some below) (rest : Location) (new : Entry) :
    (folder entries).put (name :: rest) new =
      .folder (Bag.putEntry name (below.put rest new) entries) := by
  cases rest <;> simp [put, h]

/-- Something that is put into a folder is there, whether or not something was there before. -/
theorem put_singleton (entries : List (String × Entry)) (name : String) (new : Entry) :
    (folder entries).put [name] new = .folder (Bag.putEntry name new entries) := by
  cases h : entries.lookup name with
  | none => simp [put, h]
  | some below => rw [put_of_some h, put_nil]

theorem put_of_none {entries : List (String × Entry)} {name : String}
    (h : entries.lookup name = none) (second : String) (rest : Location) (new : Entry) :
    (folder entries).put (name :: second :: rest) new = .folder entries := by
  simp [put, h]

/-- A file and a folder stay what they are when something is put below them. -/
theorem node_put_cons (e new : Entry) (name : String) (rest : Location) :
    (e.put (name :: rest) new).node = e.node := by
  cases e with
  | file bytes => rfl
  | folder entries =>
    cases h : entries.lookup name with
    | some below => rw [put_of_some h]; rfl
    | none =>
      cases rest with
      | nil => rw [put_singleton]; rfl
      | cons second rest => rw [put_of_none h]

/-- On the way to the place of something new everything is as it was, apart from what is new. -/
theorem get?_put_of_some {e x : Entry} {front : Location} (h : e.get? front = some x)
    (back : Location) (new : Entry) :
    (e.put (front ++ back) new).get? front = some (x.put back new) := by
  induction front generalizing e with
  | nil =>
    obtain rfl : e = x := by simpa [get?] using h
    simp [get?]
  | cons name rest ih =>
    cases e with
    | file bytes => simp [get?] at h
    | folder entries =>
      rw [get?] at h
      cases hlookup : entries.lookup name with
      | none => simp [hlookup] at h
      | some below =>
        rw [hlookup] at h
        rw [List.cons_append, put_of_some hlookup]
        simp only [get?, Bag.lookup_putEntry, if_true, Option.bind_some]
        exact ih h

/-- A place that is neither below nor above the new one is not touched. -/
theorem get?_put_of_not_prefix {place other : Location} (h : ¬ place <+: other)
    (h' : ¬ other <+: place) (e new : Entry) : (e.put place new).get? other = e.get? other := by
  induction place generalizing e other with
  | nil => exact absurd List.nil_prefix h
  | cons name rest ih =>
    cases other with
    | nil => exact absurd List.nil_prefix h'
    | cons first others =>
      cases e with
      | file bytes => rfl
      | folder entries =>
        by_cases hname : first = name
        · -- The two places part further down.
          subst hname
          rw [List.cons_prefix_cons, not_and] at h h'
          cases hlookup : entries.lookup first with
          | some below =>
            rw [put_of_some hlookup]
            simp only [get?, Bag.lookup_putEntry, if_true, hlookup, Option.bind_some]
            exact ih (h rfl) (h' rfl) below
          | none =>
            cases rest with
            | nil => exact absurd List.nil_prefix (h rfl)
            | cons second rest => rw [put_of_none hlookup]
        · have hother : ∀ value, (Bag.putEntry name value entries).lookup first =
              entries.lookup first := fun value => by rw [Bag.lookup_putEntry, if_neg hname]
          cases hlookup : entries.lookup name with
          | some below =>
            rw [put_of_some hlookup]
            simp only [get?, hother]
          | none =>
            cases rest with
            | nil => simp only [put_singleton, get?, hother]
            | cons second rest => rw [put_of_none hlookup]

end Entry

namespace Disk

/-- What stands at a place of a disk. -/
def node? (disk : Disk) (place : Location) : Option Node :=
  (disk.get? place).map Entry.node

/-! ## Places below and above each other -/

theorem get?_append (disk : Disk) (front back : Location) :
    disk.get? (front ++ back) = (disk.get? front).bind fun below => below.get? back :=
  Entry.get?_append disk.root front back

theorem isSome_node? (disk : Disk) (place : Location) :
    (disk.node? place).isSome = (disk.get? place).isSome :=
  Option.isSome_map

theorem isFolderAt_iff {disk : Disk} {place : Location} :
    disk.isFolderAt place = true ↔ disk.node? place = some .folder := by
  rw [isFolderAt, node?]
  cases disk.get? place with
  | none => simp
  | some entry => cases entry <;> simp [Entry.node]

theorem exists_get?_of_folder {disk : Disk} {place : Location}
    (h : disk.node? place = some .folder) : ∃ entries, disk.get? place = some (.folder entries) := by
  obtain ⟨entry, hget, hnode⟩ := Option.map_eq_some_iff.mp h
  cases entry with
  | file bytes => simp [Entry.node] at hnode
  | folder entries => exact ⟨entries, hget⟩

theorem exists_get?_of_file {disk : Disk} {place : Location} {bytes : List UInt8}
    (h : disk.node? place = some (.file bytes)) : disk.get? place = some (.file bytes) := by
  obtain ⟨entry, hget, hnode⟩ := Option.map_eq_some_iff.mp h
  cases entry with
  | file other => rw [hget, Node.file.inj hnode]
  | folder entries => simp [Entry.node] at hnode

/-- Only folders have something below them. -/
theorem node?_below {disk : Disk} {place : Location} (h : disk.node? place ≠ some .folder)
    (name : String) (rest : Location) : disk.node? (place ++ name :: rest) = none := by
  rw [node?, get?_append]
  cases hget : disk.get? place with
  | none => rfl
  | some entry =>
    cases entry with
    | file bytes => rfl
    | folder entries => exact absurd (by rw [node?, hget]; rfl) h

theorem node?_of_isSome_below {disk : Disk} {place : Location} {name : String} {rest : Location}
    (h : (disk.node? (place ++ name :: rest)).isSome = true) : disk.node? place = some .folder := by
  refine Classical.byContradiction fun hnot => ?_
  rw [node?_below hnot] at h
  exact absurd h (by simp)

theorem node?_of_isSome_child {disk : Disk} {place : Location} {name : String}
    (h : (disk.node? (place ++ [name])).isSome = true) : disk.node? place = some .folder :=
  node?_of_isSome_below h

/-! ## Putting something new -/

theorem node?_put_above {disk : Disk} {above : Location} {node : Node}
    (h : disk.node? above = some node) (first : String) (rest : Location) (new : Entry) :
    (disk.put (above ++ first :: rest) new).node? above = disk.node? above := by
  obtain ⟨x, hx, -⟩ := Option.map_eq_some_iff.mp h
  have hput : (disk.put (above ++ first :: rest) new).get? above =
      some (x.put (first :: rest) new) := Entry.get?_put_of_some hx (first :: rest) new
  rw [node?, hput, node?, hx, Option.map_some, Option.map_some, Entry.node_put_cons]

/-- **What is put changes its place and nothing else**, if there is nothing below it, and if its
place is in a folder and is not a folder itself. -/
theorem node?_put {disk : Disk} {front : Location} {name : String} (new : Entry)
    (hfront : disk.node? front = some .folder)
    (hplace : disk.node? (front ++ [name]) ≠ some .folder)
    (hnew : ∀ first rest, new.get? (first :: rest) = none) (other : Location) :
    (disk.put (front ++ [name]) new).node? other =
      if other = front ++ [name] then some new.node else disk.node? other := by
  obtain ⟨entries, hget⟩ := exists_get?_of_folder hfront
  have hnow : (disk.put (front ++ [name]) new).get? front =
      some (.folder (Bag.putEntry name new entries)) := by
    rw [← Entry.put_singleton]
    exact Entry.get?_put_of_some hget [name] new
  have hthere : (disk.put (front ++ [name]) new).get? (front ++ [name]) = some new := by
    rw [get?_append, hnow, Option.bind_some, Entry.get?, Bag.lookup_putEntry, if_pos rfl]
    simp [Entry.get?]
  -- A place is at the new one or below it, above it, or somewhere else.
  by_cases hbelow : front ++ [name] <+: other
  · obtain ⟨rest, rfl⟩ := hbelow
    cases rest with
    | nil => rw [List.append_nil, if_pos rfl, node?, hthere, Option.map_some]
    | cons first rest =>
      rw [if_neg (by simp), node?_below hplace, node?, get?_append, hthere, Option.bind_some, hnew,
        Option.map_none]
  · have hne : other ≠ front ++ [name] := fun heq => hbelow (heq ▸ List.prefix_rfl)
    rw [if_neg hne]
    by_cases habove : other <+: front ++ [name]
    · -- The folders on the way stay folders.
      obtain ⟨rest, hrest⟩ := habove
      cases rest with
      | nil => exact absurd ⟨[], by rw [List.append_nil, ← hrest, List.append_nil]⟩ hbelow
      | cons first rest =>
        have hfolder : disk.node? other = some .folder := by
          rcases List.prefix_concat_iff.mp ⟨first :: rest, hrest⟩ with rfl | ⟨back, rfl⟩
          · exact absurd List.prefix_rfl hbelow
          cases back with
          | nil => rwa [List.append_nil] at hfront
          | cons next back => exact node?_of_isSome_below (by rw [hfront, Option.isSome_some])
        rw [← hrest, node?_put_above hfolder]
    · exact congrArg (Option.map Entry.node)
        (Entry.get?_put_of_not_prefix hbelow habove disk.root new)

/-! ## Disks on which paths lead to the same places -/

/-- Folders stay folders and files stay files, whatever is in them. -/
structure Keeps (disk after : Disk) : Prop where
  folders : ∀ place, disk.node? place = some .folder → after.node? place = some .folder
  files : ∀ place bytes, disk.node? place = some (.file bytes) →
    ∃ bytes', after.node? place = some (.file bytes')

theorem Keeps.refl (disk : Disk) : Keeps disk disk :=
  ⟨fun _ h => h, fun _ bytes h => ⟨bytes, h⟩⟩

theorem Keeps.trans {disk made after : Disk} (h : Keeps disk made) (h' : Keeps made after) :
    Keeps disk after where
  folders place hfolder := h'.folders place (h.folders place hfolder)
  files place bytes hfile := by
    obtain ⟨bytes', hfile'⟩ := h.files place bytes hfile
    exact h'.files place bytes' hfile'

theorem Keeps.ne_file {disk after : Disk} (h : Keeps disk after) {place : Location}
    (hafter : after.node? place = some .folder) (bytes : List UInt8) :
    disk.node? place ≠ some (.file bytes) := by
  intro hfile
  obtain ⟨bytes', hfile'⟩ := h.files place bytes hfile
  rw [hafter] at hfile'
  exact absurd hfile' (by simp)

theorem Keeps.isSome {disk after : Disk} (h : Keeps disk after) {place : Location}
    (hsome : (disk.node? place).isSome = true) : (after.node? place).isSome = true := by
  obtain ⟨node, hnode⟩ := Option.isSome_iff_exists.mp hsome
  cases node with
  | folder => rw [h.folders place hnode, Option.isSome_some]
  | file bytes =>
    obtain ⟨bytes', hnode'⟩ := h.files place bytes hnode
    rw [hnode', Option.isSome_some]

theorem Keeps.of_node? {disk after : Disk} {place : Location} {node : Node}
    (hnode : ∀ other, after.node? other = if other = place then some node else disk.node? other)
    (hsame : ∀ old, disk.node? place = some old → (old = .folder ↔ node = .folder)) :
    Keeps disk after where
  folders := by
    intro other hfolder
    rw [hnode]
    split
    · rename_i heq
      subst heq
      rw [(hsame _ hfolder).mp rfl]
    · exact hfolder
  files := by
    intro other bytes hfile
    rw [hnode]
    split
    · rename_i heq
      subst heq
      cases node with
      | file bytes' => exact ⟨bytes', rfl⟩
      | folder => exact absurd ((hsame _ hfile).mpr rfl) (by simp)
    · exact ⟨bytes, hfile⟩

end Disk

end GuardedUi
