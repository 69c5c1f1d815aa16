import GuardedUi.Proofs.Disk.Folder
import GuardedUi.Proofs.Disk.Temporary

/-!
# `Proofs/Disk/Remaking` — a folder that is removed and made anew

Removing a folder with all that is in it leaves everything else alone (`Prunes`). A path that led to
the folder can have passed through what was in it; then it leads nowhere afterwards, and nothing
worse can happen to it (`Keeps.follow_of_within`).

> **The way to the folder can be made again** (`exists_ensureFolders`): after the removal making sure
> of the folder and of those above it always works, and what it makes are folders that the path
> passes through.

The induction is on the folders above the path, from the outside in. It goes on because the disk
before the removal shows where every part of the path leads, and that no file is in the way.
-/

set_option autoImplicit false

namespace GuardedUi

theorem Bag.lookup_filter_ne {α : Type} (entries : List (String × α)) (name other : String) :
    (entries.filter fun entry => entry.1 != name).lookup other =
      if other = name then none else entries.lookup other := by
  induction entries with
  | nil => simp
  | cons entry rest ih =>
    obtain ⟨n, v⟩ := entry
    by_cases hn : n = name
    · rw [List.filter_cons_of_neg (by simpa using hn), ih]
      split
      · rfl
      · rename_i hother
        have hne : (other == n) = false := by simpa [hn] using hother
        simp [List.lookup_cons, hne]
    · rw [List.filter_cons_of_pos (by simpa using hn), List.lookup_cons, List.lookup_cons, ih]
      by_cases hother : other = n
      · simp [hother, hn]
      · have hne : (other == n) = false := by simpa using hother
        simp [hne]

namespace Disk

open GuardedUi.Path (isIdle isPlain)

/-! ## Emptying and removing a folder -/

section Prunes

variable {disk after : Disk} {place front other : Location} {name : String} {node : Node}

theorem get?_put_below (hplace : disk.node? place = some node) (entry : Entry) (rest : Location) :
    (disk.put place entry).get? (place ++ rest) = entry.get? rest := by
  obtain ⟨x, hx, -⟩ := Option.map_eq_some_iff.mp hplace
  have hput : (disk.put place entry).get? place = some entry := Entry.get?_put hx entry
  rw [get?_append, hput, Option.bind_some]

/-- What is put where something stands changes nothing that is not below. -/
theorem node?_put_of_not_prefix (hplace : disk.node? place = some node) (entry : Entry)
    (h : ¬ place <+: other) : (disk.put place entry).node? other = disk.node? other := by
  by_cases habove : other <+: place
  · obtain ⟨rest, rfl⟩ := habove
    cases rest with
    | nil => exact absurd ⟨[], by simp⟩ h
    | cons first rest =>
      exact node?_put_above (node?_of_isSome_below (by rw [hplace, Option.isSome_some])) first rest
        entry
  · exact congrArg (Option.map Entry.node) (Entry.get?_put_of_not_prefix h habove disk.root entry)

/-- A folder was emptied, or removed altogether. -/
structure Prunes (disk after : Disk) (place : Location) : Prop where
  outside : ∀ other, ¬ place <+: other → after.node? other = disk.node? other
  inside : ∀ name rest, after.node? (place ++ name :: rest) = none
  self : after.node? place = none ∨ after.node? place = some .folder

theorem prunes_put (hplace : disk.node? place = some .folder) :
    Prunes disk (disk.put place (.folder [])) place where
  outside _ := node?_put_of_not_prefix hplace _
  inside name rest := by
    rw [node?, get?_put_below hplace]
    rfl
  self := by
    have hput := get?_put_below hplace (.folder []) []
    rw [List.append_nil] at hput
    exact .inr (by rw [node?, hput]; rfl)

theorem prunes_erase (hfront : disk.node? front = some .folder) (name : String) :
    Prunes disk (disk.erase (front ++ [name])) (front ++ [name]) := by
  obtain ⟨entries, hget⟩ := exists_get?_of_folder hfront
  have herase : disk.erase (front ++ [name]) =
      disk.put front (.folder (entries.filter fun entry => entry.1 != name)) := by
    refine congrArg Disk.mk ?_
    rw [Entry.erase_append hget (by simp), Entry.erase_singleton]
  rw [herase]
  have hgone : ∀ rest, (disk.put front (.folder (entries.filter fun entry =>
      entry.1 != name))).node? (front ++ name :: rest) = none := fun rest => by
    rw [node?, get?_put_below hfront, Entry.get?, Bag.lookup_filter_ne, if_pos rfl]
    rfl
  refine ⟨fun other h => ?_, fun second rest => ?_, .inl (hgone [])⟩
  · by_cases hbelow : front <+: other
    · obtain ⟨rest, rfl⟩ := hbelow
      rw [node?, node?, get?_put_below hfront, get?_append, hget, Option.bind_some]
      cases rest with
      | nil => rfl
      | cons first rest =>
        have hne : first ≠ name := fun heq => h ⟨rest, by rw [heq, List.append_assoc]; rfl⟩
        rw [Entry.get?, Entry.get?, Bag.lookup_filter_ne, if_neg hne]
    · exact node?_put_of_not_prefix hfront _ hbelow
  · rw [List.append_assoc]
    exact hgone (second :: rest)

theorem Prunes.trans {made : Disk} (h : Prunes disk made place) (h' : Prunes made after place) :
    Prunes disk after place where
  outside other hother := (h'.outside other hother).trans (h.outside other hother)
  inside := h'.inside
  self := h'.self

/-- What is left was there before. -/
theorem Prunes.keeps (h : Prunes disk after place) (hplace : disk.node? place = some .folder) :
    Keeps after disk := by
  have hleft : ∀ other node, after.node? other = some node → disk.node? other = some node := by
    intro other node hnode
    by_cases hbelow : place <+: other
    · obtain ⟨rest, rfl⟩ := hbelow
      cases rest with
      | nil =>
        rw [List.append_nil] at hnode ⊢
        rcases h.self with hself | hself
        · rw [hself] at hnode
          exact absurd hnode (by simp)
        · rw [hplace, ← hself, hnode]
      | cons name rest =>
        rw [h.inside] at hnode
        exact absurd hnode (by simp)
    · rw [← h.outside other hbelow, hnode]
  exact ⟨fun other => hleft other .folder, fun other bytes hfile => ⟨bytes, hleft other _ hfile⟩⟩

end Prunes

/-! ## Paths on a disk from which something is gone -/

section Follow

variable {disk within : Disk}

/-- On a disk from which something is gone a path leads where it led before, or nowhere. -/
theorem Keeps.follow_of_within (h : Keeps within disk) {parts : List String}
    {here there : Location} (hfollow : disk.follow here parts = .ok there) :
    within.follow here parts = .ok there ∨ within.follow here parts = .error .missing := by
  induction parts generalizing here with
  | nil => exact .inl hfollow
  | cons part rest ih =>
    have hfolder := node?_of_follow_cons hfollow
    rw [follow_cons, hfolder] at hfollow
    rw [follow_cons]
    cases hhere : within.node? here with
    | none => exact .inr rfl
    | some node =>
      cases node with
      | file bytes =>
        obtain ⟨bytes', hfile⟩ := h.files here bytes hhere
        rw [hfolder] at hfile
        exact absurd hfile (by simp)
      | folder =>
        simp only at hfollow ⊢
        split at hfollow
        · rename_i hidle
          rw [if_pos hidle]
          exact ih hfollow
        · rename_i hidle
          rw [if_neg hidle]
          split at hfollow
          · rename_i hdots
            rw [if_pos hdots]
            exact ih hfollow
          · rename_i hdots
            rw [if_neg hdots]
            split at hfollow
            · exact absurd hfollow (by simp)
            · rename_i hname
              rw [if_neg hname]
              split at hfollow
              · split
                · exact ih hfollow
                · exact .inr rfl
              · exact absurd hfollow (by simp)

theorem follow_idle {here : Location} (hhere : disk.node? here = some .folder)
    {idle : List String} (hidle : ∀ part ∈ idle, Path.isIdle part = true) :
    disk.follow here idle = .ok here := by
  induction idle with
  | nil => rfl
  | cons part rest ih =>
    rw [follow_cons, hhere]
    simp only [hidle part List.mem_cons_self, if_true]
    exact ih fun other ho => hidle other (List.mem_cons_of_mem part ho)

theorem follow_of_follow_append_idle {here there : Location} {parts idle : List String}
    (hidle : ∀ part ∈ idle, Path.isIdle part = true)
    (hfollow : disk.follow here (parts ++ idle) = .ok there) :
    disk.follow here parts = .ok there := by
  rw [follow_append] at hfollow
  cases hparts : disk.follow here parts with
  | error e => simp [hparts, Except.bind] at hfollow
  | ok place =>
    rw [hparts] at hfollow
    have hrest : disk.follow place idle = .ok there := hfollow
    cases idle with
    | nil => exact hrest
    | cons part rest =>
      rw [← hrest, follow_idle (node?_of_follow_cons hrest) hidle]

/-- The folder above a folder is one. -/
theorem node?_dropLast {place : Location} (h : disk.node? place = some .folder) :
    disk.node? place.dropLast = some .folder := by
  rcases List.eq_nil_or_concat place with rfl | ⟨front, name, rfl⟩
  · exact h
  · rw [List.concat_eq_append] at h ⊢
    rw [List.dropLast_concat]
    exact node?_of_isSome_child (by rw [h, Option.isSome_some])

end Follow

/-- **Removing an entry of a folder** that is a folder itself always works. The entry stays, as an
empty folder, only if its own path passed through what was in it. -/
theorem FolderAt.exists_removeFolder {disk : Disk} {path : Path} {place : Location} {name : String}
    (h : FolderAt disk path place) (hname : isPlain name = true)
    (husable : (path.child name).isUsable = true)
    (hnode : disk.node? (place ++ [name]) = some .folder) :
    ∃ after, disk.removeFolder (path.child name) = (.ok (), after) ∧
      Prunes disk after (place ++ [name]) := by
  have hlocate : disk.locate (path.child name) = .ok (place ++ [name]) := by
    rw [locate_of_isUsable husable, Path.parts_child, h.follow_stem, follow_plain [] h.node hname,
      hnode]
    rfl
  obtain ⟨entries, hget⟩ := exists_get?_of_folder hnode
  have hemptied := prunes_put hnode
  simp only [removeFolder, find, hlocate, hget, removeEmptyFolder]
  rcases (hemptied.keeps hnode).follow_of_within h.stem with hstem | hstem
  · have habove : ¬ place ++ [name] <+: place := fun hp => by
      have hlength := hp.length_le
      rw [List.length_append, List.length_singleton] at hlength
      omega
    have hfolder : FolderAt (disk.put (place ++ [name]) (.folder [])) path place :=
      ⟨hstem, by rw [hemptied.outside _ habove, h.node]⟩
    rw [hfolder.placeOf_child hname husable]
    exact ⟨_, rfl, hemptied.trans (prunes_erase hfolder.node name)⟩
  · have hplace : (disk.put (place ++ [name]) (.folder [])).placeOf (path.child name) =
        .error .missing := by
      simp only [placeOf, husable, Path.split?_child hname, hstem, Bool.not_true,
        Bool.false_eq_true, if_false]
    rw [hplace]
    exact ⟨_, rfl, hemptied⟩

end Disk

namespace Path

/-- The idle parts at the end do not count. -/
theorem dropIdle_cases (parts : List String) :
    (∃ idle, (∀ part ∈ idle, isIdle part = true) ∧ parts = dropIdle parts ++ idle) ∧
      (dropIdle parts = [] ∨
        ∃ front name, dropIdle parts = front ++ [name] ∧ isIdle name = false) := by
  have hsplit : dropIdle parts ++ (parts.reverse.takeWhile isIdle).reverse = parts := by
    rw [dropIdle, ← List.reverse_append, List.takeWhile_append_dropWhile, List.reverse_reverse]
  refine ⟨⟨_, fun part hpart => ?_, hsplit.symm⟩, ?_⟩
  · exact List.all_eq_true.mp List.all_takeWhile part (List.mem_reverse.mp hpart)
  · rw [dropIdle]
    cases hdrop : parts.reverse.dropWhile isIdle with
    | nil => exact .inl rfl
    | cons name rest =>
      have hhead := List.head?_dropWhile_not isIdle parts.reverse
      rw [hdrop] at hhead
      exact .inr ⟨rest.reverse, name, List.reverse_cons, by simpa using hhead⟩

theorem parent?_of_concat {p : Path} {front : List String} {name : String}
    (hparts : p.parts = front ++ [name]) (hname : isIdle name = false) :
    p.parent? = some ⟨if dropIdle front = [] then [""] else dropIdle front⟩ := by
  have hdrop : dropIdle p.parts = front ++ [name] := by rw [hparts, dropIdle_concat hname]
  obtain ⟨head, tail, hcons⟩ : ∃ head tail, front ++ [name] = head :: tail :=
    List.exists_cons_of_ne_nil (by simp)
  have hlast : (head :: tail).dropLast = front := by rw [← hcons, List.dropLast_concat]
  rw [parent?, hdrop, hcons]
  simp only [hlast]
  cases hfront : dropIdle front <;> simp

end Path

namespace Disk

open GuardedUi.Path (isIdle isPlain)

/-! ## Making the way to a folder again -/

/-- A disk on which a path leads to a folder again. It lies between a disk from which something is
gone and the one before, and what is new are folders on the way. -/
structure Remakes (within made disk : Disk) (parts : List String) (there : Location) : Prop where
  grows : Keeps within made
  keeps : Keeps made disk
  leads : made.follow [] parts = .ok there
  node : made.node? there = some .folder
  new : ∀ other node, made.node? other = some node → within.node? other = some node ∨
    within.node? other = none ∧ node = .folder ∧
      ∃ front, front <+: parts ∧ made.follow [] front = .ok other

section Remakes

variable {within made disk : Disk} {parts front : List String} {there place : Location}
  {name : String} {path : Path}

/-- What leads on from there through folders that are there anyway is on the way, too. -/
theorem Remakes.append (h : Remakes within made disk parts there) {back : List String}
    (hleads : made.follow there back = .ok place) (hnode : made.node? place = some .folder) :
    Remakes within made disk (parts ++ back) place where
  grows := h.grows
  keeps := h.keeps
  leads := by
    rw [follow_append, h.leads]
    exact hleads
  node := hnode
  new other node hother := (h.new other node hother).imp_right fun ⟨hnone, hfolder, front, hf, hm⟩ =>
    ⟨hnone, hfolder, front, hf.trans (List.prefix_append parts back), hm⟩

theorem remakes_refl (hkeeps : Keeps within disk) (hroot : within.node? [] = some .folder) :
    Remakes within within disk [] [] :=
  ⟨.refl within, hkeeps, rfl, hroot, fun _ _ h => .inl h⟩

/-- What is made anew was a folder before, so nothing comes into the way. -/
theorem Remakes.ensure {after : Disk} (h : Remakes within made disk front there)
    (he : Ensures made after path place) (hfront : front <+: path.parts)
    (hplace : disk.node? place = some .folder) : Remakes within after disk path.parts place := by
  have hgrows := h.grows.trans he.keeps
  have hleads := he.folder.follow_parts
  refine ⟨hgrows, ⟨fun other hother => ?_, fun other bytes hother => ?_⟩, hleads, he.folder.node,
    fun other node hother => ?_⟩
  · rw [he.node] at hother
    split at hother
    · rename_i heq
      rw [heq, hplace]
    · exact h.keeps.folders other hother
  · rw [he.node] at hother
    split at hother
    · exact absurd hother (by simp)
    · exact h.keeps.files other bytes hother
  · rw [he.node] at hother
    split at hother
    · rename_i heq
      subst heq
      obtain rfl : .folder = node := Option.some.inj hother
      cases hold : within.node? other with
      | none => exact .inr ⟨rfl, rfl, path.parts, List.prefix_rfl, hleads⟩
      | some old =>
        cases old with
        | file bytes => exact absurd hold (hgrows.ne_file he.folder.node bytes)
        | folder => exact .inl rfl
    · obtain hold | ⟨hnone, hfolder, before, hbefore, hreach⟩ := h.new other node hother
      · exact .inl hold
      · exact .inr ⟨hnone, hfolder, before, hbefore.trans hfront, he.keeps.follow hreach⟩

/-- Making sure of the next folder on the way. -/
theorem Remakes.exists_ensureFolder (h : Remakes within made disk front there)
    (hparts : path.parts = front ++ [name]) (hname : isIdle name = false)
    (husable : path.isUsable = true) (hfollow : disk.follow there [name] = .ok place)
    (hplace : disk.node? place = some .folder) :
    ∃ after, made.ensureFolder path = .ok after ∧ Remakes within after disk path.parts place := by
  rw [hparts]
  rw [follow_cons, h.keeps.folders there h.node] at hfollow
  simp only [hname, Bool.false_eq_true, if_false] at hfollow
  split at hfollow
  · -- The folder above is there.
    rename_i hdots
    obtain rfl : there.dropLast = place := Except.ok.inj hfollow
    have hstep : made.follow there [name] = .ok there.dropLast := by
      rw [follow_cons, h.node]
      simp only [hname, Bool.false_eq_true, if_false, if_pos hdots]
      rfl
    have hafter := h.append hstep (node?_dropLast h.node)
    have hlocate : made.locate path = .ok there.dropLast := by
      rw [locate_of_isUsable husable, hparts]
      exact hafter.leads
    exact ⟨made, ensureFolder_of_isFolder (isFolder_of_locate hlocate hafter.node), hafter⟩
  · rename_i hdots
    split at hfollow
    · exact absurd hfollow (by simp)
    rename_i hlong
    split at hfollow
    · -- An entry of the folder may have to be made.
      obtain rfl : there ++ [name] = place := Except.ok.inj hfollow
      have hplain : isPlain name = true := by
        simp only [Bool.not_eq_true', Bool.not_eq_false] at hlong
        simp [isPlain, hname, hdots, hlong]
      have hchild : (⟨front ++ [""]⟩ : Path).child name = path := by
        rw [Path.child, Path.stem, if_pos (by simp), List.dropLast_concat, ← hparts]
      have hfolder : FolderAt made ⟨front ++ [""]⟩ there :=
        ⟨by rw [Path.stem, if_pos (by simp), List.dropLast_concat]; exact h.leads, h.node⟩
      obtain ⟨after, he⟩ := hfolder.exists_ensureFolder hplain (hchild ▸ husable)
        fun bytes => h.keeps.ne_file hplace bytes
      rw [hchild] at he
      exact ⟨after, he.run, hparts ▸ h.ensure he (hparts ▸ List.prefix_append front [name]) hplace⟩
    · exact absurd hfollow (by simp)

/-- The outermost folder is there. -/
theorem ensureFolders_slash (hroot : within.node? [] = some .folder) (fuel : Nat) :
    within.ensureFolders (⟨[""]⟩ :: Path.parents fuel ⟨[""]⟩).reverse = (.ok (), within) := by
  have hlocate : within.locate ⟨[""]⟩ = .ok [] := by
    rw [locate_of_isUsable Path.isUsable_slash, follow_idle hroot (by decide)]
  rw [Path.parents_slash]
  exact ensureFolders_of_isFolder (by simpa using isFolder_of_locate hlocate hroot)

/-- **The way to a folder can be made again** on a disk from which something is gone. -/
theorem exists_ensureFolders (hkeeps : Keeps within disk) (hroot : within.node? [] = some .folder)
    {fuel : Nat} (hparts : path.parts = front ++ [name]) (hname : isIdle name = false)
    (hfuel : front.length < fuel) (husable : path.isUsable = true)
    (hfollow : disk.follow [] path.parts = .ok place) (hplace : disk.node? place = some .folder) :
    ∃ made, within.ensureFolders (path :: Path.parents fuel path).reverse = (.ok (), made) ∧
      Remakes within made disk path.parts place := by
  induction fuel generalizing path front name place with
  | zero => exact absurd hfuel (Nat.not_lt_zero _)
  | succ fuel ih =>
    rw [hparts, follow_append] at hfollow
    cases hfront : disk.follow [] front with
    | error e => simp [hfront, Except.bind] at hfollow
    | ok above =>
      rw [hfront] at hfollow
      have habove : disk.node? above = some .folder := node?_of_follow_cons hfollow
      obtain ⟨⟨idle, hidle, hsplit⟩, hcases⟩ := Path.dropIdle_cases front
      have hparent := Path.parent?_of_concat hparts hname
      -- First the folder above, by way of a path without idle parts at its end.
      have hfirst : ∃ parent made, path.parent? = some parent ∧
          within.ensureFolders (parent :: Path.parents fuel parent).reverse = (.ok (), made) ∧
          Remakes within made disk front above := by
        rcases hcases with hnil | ⟨before, last, hlast, hnotIdle⟩
        · rw [if_pos hnil] at hparent
          rw [hnil, List.nil_append] at hsplit
          rw [hsplit, follow_idle (hkeeps.folders [] hroot) hidle] at hfront
          obtain rfl : [] = above := Except.ok.inj hfront
          exact ⟨_, within, hparent, ensureFolders_slash hroot fuel,
            hsplit ▸ (remakes_refl hkeeps hroot).append (follow_idle hroot hidle) hroot⟩
        · have hne : Path.dropIdle front ≠ [] := by simp [hlast]
          rw [if_neg hne] at hparent
          have hlonger : (⟨Path.dropIdle front ++ (idle ++ [name])⟩ : Path).isUsable = true := by
            rw [← List.append_assoc, ← hsplit, ← hparts]
            exact husable
          have hbefore : (⟨Path.dropIdle front⟩ : Path).parts = before ++ [last] := hlast
          rw [hsplit] at hfront
          have hlength : before.length < fuel := by
            have := congrArg List.length hsplit
            rw [hlast] at this
            simp only [List.length_append, List.length_cons, List.length_nil] at this
            omega
          obtain ⟨made, hrun, hmade⟩ := ih hbefore hnotIdle hlength
            (Path.isUsable_of_append hlonger) (follow_of_follow_append_idle hidle hfront) habove
          refine ⟨_, made, hparent, hrun, ?_⟩
          rw [hsplit]
          exact hmade.append (follow_idle hmade.node hidle) hmade.node
      obtain ⟨parent, made, hparent, hrun, hmade⟩ := hfirst
      obtain ⟨after, hlast, hafter⟩ :=
        hmade.exists_ensureFolder hparts hname husable hfollow hplace
      refine ⟨after, ?_, hafter⟩
      rw [Path.parents, hparent, List.reverse_cons, ensureFolders_append, hrun]
      simp only [ensureFolders, hlast]

/-- What a path to an entry of a folder names is made again together with the way to it. -/
theorem exists_installFolder_child (hkeeps : Keeps within disk)
    (hroot : within.node? [] = some .folder) (hname : isPlain name = true)
    (husable : (path.child name).isUsable = true) (hfolder : FolderAt disk path there)
    (hplace : disk.node? (there ++ [name]) = some .folder) :
    ∃ made, within.installFolder (path.child name) = (.ok (), made) ∧
      Remakes within made disk (path.child name).parts (there ++ [name]) := by
  have hfollow : disk.follow [] (path.child name).parts = .ok (there ++ [name]) := by
    rw [Path.parts_child, hfolder.follow_stem, follow_plain [] hfolder.node hname, hplace]
    rfl
  rw [installFolder, if_pos husable, Path.ancestors]
  exact exists_ensureFolders hkeeps hroot (Path.parts_child path name)
    (Path.not_isIdle_of_isPlain hname) (by simp) husable hfollow hplace

end Remakes

end Disk

end GuardedUi
