import GuardedUi.Generation
import GuardedUi.Proofs.Emit.Source

/-!
# `Proofs/Generation/Totality` — a pass over a model does not fail

There are two ways in which a pass could fail. A stub could have a name that no region can have, since
names come from types and ids, which are arbitrary texts. And the header template could ask for
something that it is not given. Neither happens:

> **A pass succeeds for every model**, whatever the documents are called and whatever the previous
> one is like (`generate_succeeds`).
-/

set_option autoImplicit false

namespace GuardedUi

open Guard

namespace Emission

/-- Every stub has a name that a region can have. -/
theorem isRegionId_of_mem_stubs (options : EmitOptions) (layout : Layout) (sheet : StyleSheet) :
    ∀ name ∈ (sections options layout sheet).stubs, isRegionId name = true := by
  intro name hname
  rw [isRegionId_iff]
  exact ((Construction.tame_ofRoot sheet layout.root).stubs name hname).1

end Emission

/-- **A pass does not fail.** The names of all regions are ones that regions can have, so their lines
are written; the header template can be read, and it is rendered with whatever it is given. -/
theorem Generation.generate_succeeds (options : EmitOptions) (layout : Layout) (sheet : StyleSheet)
    (previous : Option (List Char)) :
    (∃ generation, Generation.generate options layout sheet previous = .ok generation) ∧
      (∀ id ∈ (Emission.sections options layout sheet).stubs ++ [initRegion],
        isRegionId id = true ∧ ∃ lines, regionLines id indentation = .ok lines) ∧
      Templates.register Bag.empty Templates.headerName Template.headerText =
        .ok Templates.builtin ∧
      ∃ header, Templates.builtin.render Templates.headerName
        (headerData options (declarations (Emission.sections options layout sheet).styleVariables
          (Emission.sections options layout sheet).widgetVariables)) = .ok header := by
  refine ⟨?_, ?_, Templates.register_headerText, ?_⟩
  · obtain ⟨emission, hemit, -⟩ := Emission.exists_emit options layout sheet
    unfold Generation.generate
    rw [hemit]
    exact ⟨_, rfl⟩
  · intro id hid
    have hregion : isRegionId id = true := by
      rcases List.mem_append.mp hid with hid | hid
      · exact Emission.isRegionId_of_mem_stubs options layout sheet id hid
      · obtain rfl := List.mem_singleton.mp hid
        decide
    exact ⟨hregion, regionText id, regionLines_eq (isRegionId_iff.mp hregion)⟩
  · obtain ⟨header, hheader, -⟩ := Emission.render_header options
      (Emission.sections options layout sheet).styleVariables
      (Emission.sections options layout sheet).widgetVariables
    exact ⟨header, hheader⟩

end GuardedUi
