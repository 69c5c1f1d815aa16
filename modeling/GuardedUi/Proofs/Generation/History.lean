import GuardedUi.Proofs.Generation.Pass

/-!
# `Proofs/Generation/History` — user code over any number of passes

A project is generated again and again, each time from another model and over the document that was
written the last time. `run` is such a history. Its invariant is that nothing is diagnosed in the
document; a pass from such a document is described by `Carries`, and it writes such a document.

> **Every pass of a history carries over the bodies of the regions that it emits and reports the
> others as dropped** (`history_carries`).

What holds over the whole history follows step by step: a region that every pass emits keeps its
body, and a body is there until a pass reports it.
-/

set_option autoImplicit false

namespace GuardedUi.Generation

open Guard

/-- A model as it is at one pass. -/
abbrev Model := Layout × StyleSheet

/-- Passes one after the other, each over the document that the one before it wrote. -/
def run (document : List Char) : List Model → Except EmitError (List Generation)
  | [] => .ok []
  | (layout, sheet) :: rest =>
    match generate .standard layout sheet (some document) with
    | .error fault => .error fault
    | .ok g => (run g.source.content rest).map (g :: ·)

/-- What a pass does with the user code of a document, when it emits the regions `ids`. -/
structure Carries (previous : List Char) (ids : List String) (g : Generation) : Prop where
  diagnostics : g.diagnostics = []
  settled : diagnose g.source.content = []
  /-- The regions of the new document are those that are emitted. -/
  names : (extract g.source.content).names = ids
  /-- Their bodies are those of the previous document, and empty where it has none. -/
  bodies : ∀ id ∈ ids,
    (extract g.source.content).get? id = some (((extract previous).get? id).getD [])
  /-- Taken over are the regions of both documents. -/
  preserved : g.preserved = ids.filter fun id => id ∈ (extract previous).names
  /-- Dropped are the blocks of the previous document that are not emitted, as they are. -/
  dropped : g.dropped =
    ((extract previous).entries.filter fun e => e.1 ∉ ids).map fun e => ⟨e.1, e.2⟩

/-! ## One step -/

theorem Pass.carries {layout : Layout} {sheet : StyleSheet} {previous : List Char}
    {emission : Emission} {g : Generation} (p : Pass layout sheet (some previous) emission g)
    (h : diagnose previous = []) : Carries previous (emission.stubs ++ [initRegion]) g := by
  have hblocks := preservedBlocks_of_diagnose h
  refine ⟨p.diagnostics.trans h, p.settled, p.names, fun id hid => ?_, ?_, ?_⟩
  · rw [p.get?_extract hid, hblocks]
  · rw [p.preserved, hblocks]
    refine List.filter_congr fun id _ => ?_
    cases hget : (extract previous).get? id with
    | none => simp [Bag.contains, hget, Bag.get?_eq_none_iff.mp hget]
    | some content =>
      have hmem : id ∈ (extract previous).names :=
        List.mem_map_of_mem (Bag.get?_eq_some_iff.mp hget)
      simp [Bag.contains, hget, hmem]
  · rw [p.dropped, hblocks]
    simp [List.contains_eq_mem]

namespace Carries

variable {previous : List Char} {ids : List String} {g : Generation}

/-- A body is in the new document or reported. -/
theorem kept_or_dropped (c : Carries previous ids g) {id : String} {content : List Char}
    (h : (extract previous).get? id = some content) :
    (extract g.source.content).get? id = some content ∨ ⟨id, content⟩ ∈ g.dropped := by
  by_cases hid : id ∈ ids
  · refine Or.inl ?_
    rw [c.bodies id hid, h, Option.getD_some]
  · refine Or.inr ?_
    rw [c.dropped]
    exact List.mem_map.mpr ⟨(id, content),
      List.mem_filter.mpr ⟨Bag.get?_eq_some_iff.mp h, by simpa using hid⟩, rfl⟩

end Carries

/-! ## Histories -/

/-- Every pass of a history carries user code over from the document before it. -/
inductive History : List Char → List Model → List Generation → Prop where
  | nil (document : List Char) : History document [] []
  | cons {document : List Char} {layout : Layout} {sheet : StyleSheet} {emission : Emission}
      {g : Generation} {models : List Model} {passes : List Generation} :
      Emission.emit .standard layout sheet = .ok emission →
      Carries document (emission.stubs ++ [initRegion]) g →
      History g.source.content models passes →
      History document ((layout, sheet) :: models) (g :: passes)

/-- The document after some passes. -/
def current (document : List Char) : List Generation → List Char
  | [] => document
  | g :: passes => current g.source.content passes

/-- Whether a model has a region of that name. -/
def Emits (model : Model) (id : String) : Prop :=
  ∃ emission, Emission.emit .standard model.1 model.2 = .ok emission ∧
    id ∈ emission.stubs ++ [initRegion]

/-- The run itself: each pass returns, and the document that it writes is fit for the next one. -/
theorem exists_history : ∀ {document : List Char} {models : List Model}, diagnose document = [] →
    (∀ model ∈ models, model.1.Unmarked) →
    ∃ passes, run document models = .ok passes ∧ History document models passes
  | document, [], _, _ => ⟨[], rfl, .nil document⟩
  | document, (layout, sheet) :: models, h, hm => by
    obtain ⟨emission, g, p⟩ := exists_pass (hm (layout, sheet) List.mem_cons_self) sheet
      (some document)
    obtain ⟨passes, hrun, hhistory⟩ :=
      exists_history p.settled fun model hmem => hm model (List.mem_cons_of_mem _ hmem)
    refine ⟨g :: passes, ?_, .cons p.emits (p.carries h) hhistory⟩
    rw [run, p.runs]
    simp only [hrun]
    rfl

namespace History

variable {document : List Char} {models : List Model} {passes : List Generation}

/-- A region that every pass emits has its body after every pass. -/
theorem body_kept (h : History document models passes) {id : String}
    (hid : ∀ model ∈ models, Emits model id) :
    ∀ g ∈ passes,
      (extract g.source.content).get? id = some (((extract document).get? id).getD []) := by
  induction h with
  | nil => simp
  | @cons document layout sheet emission g models passes hemit hcarries _ ih =>
    obtain ⟨emission', hemit', hmem⟩ := hid (layout, sheet) List.mem_cons_self
    obtain rfl : emission' = emission := Except.ok.inj (hemit'.symm.trans hemit)
    have hbody := hcarries.bodies id hmem
    intro other ho
    rcases List.mem_cons.mp ho with rfl | ho
    · exact hbody
    · rw [ih (fun model hm => hid model (List.mem_cons_of_mem _ hm)) other ho, hbody]
      rfl

/-- A body is there until a pass reports it. -/
theorem stays_until_dropped (h : History document models passes) {id : String}
    {content : List Char} (hget : (extract document).get? id = some content) :
    ∃ stay rest, passes = stay ++ rest ∧
      (∀ g ∈ stay, (extract g.source.content).get? id = some content) ∧
      ∀ g ∈ rest.head?, ⟨id, content⟩ ∈ g.dropped := by
  induction h with
  | nil => exact ⟨[], [], rfl, by simp, by simp⟩
  | @cons document layout sheet emission g models passes _ hcarries _ ih =>
    rcases hcarries.kept_or_dropped hget with hkept | hdropped
    · obtain ⟨stay, rest, rfl, hstay, hrest⟩ := ih hkept
      refine ⟨g :: stay, rest, rfl, fun other ho => ?_, hrest⟩
      rcases List.mem_cons.mp ho with rfl | ho
      · exact hkept
      · exact hstay other ho
    · exact ⟨[], g :: passes, rfl, by simp, by simpa using hdropped⟩

/-- What follows after some passes is a history of the document that they left. -/
theorem suffix {earlier later : List Generation}
    (h : History document models (earlier ++ later)) :
    ∃ models', History (current document earlier) models' later := by
  induction earlier generalizing document models with
  | nil => exact ⟨models, h⟩
  | cons g earlier ih =>
    cases h with
    | cons _ _ hrest => exact ih hrest

end History

/-- **User code survives every history of model changes.** Each pass carries the bodies over or
reports them; so a region that all passes emit keeps its body, and at every point a body stays in
the document until a pass reports it. -/
theorem history_carries {document : List Char} (h : diagnose document = []) {models : List Model}
    (hm : ∀ model ∈ models, model.1.Unmarked) :
    ∃ passes, run document models = .ok passes ∧
      History document models passes ∧
      (∀ id, (∀ model ∈ models, Emits model id) → ∀ g ∈ passes,
        (extract g.source.content).get? id = some (((extract document).get? id).getD [])) ∧
      ∀ earlier later, passes = earlier ++ later → ∀ id content,
        (extract (current document earlier)).get? id = some content →
        ∃ stay rest, later = stay ++ rest ∧
          (∀ g ∈ stay, (extract g.source.content).get? id = some content) ∧
          ∀ g ∈ rest.head?, ⟨id, content⟩ ∈ g.dropped := by
  obtain ⟨passes, hrun, hhistory⟩ := exists_history h hm
  refine ⟨passes, hrun, hhistory, fun id hid => hhistory.body_kept hid, ?_⟩
  rintro earlier later rfl id content hget
  obtain ⟨_, hlater⟩ := hhistory.suffix
  exact hlater.stays_until_dropped hget

/-- A document with user code in the initializer. -/
def handwritten : List Char :=
  "/* USER CODE BEGIN init */\n  a();\n  /* USER CODE END init */\n".toList

theorem emits_initRegion (model : Model) : Emits model initRegion := by
  obtain ⟨emission, hemit, -⟩ := Emission.exists_emission model.1 model.2
  exact ⟨emission, hemit, List.mem_append_right _ List.mem_cons_self⟩

theorem history_carries_label :
    ∃ passes, run handwritten [(labelLayout "Ready.", .empty), (.empty, .empty)] = .ok passes ∧
      ∀ g ∈ passes, (extract g.source.content).get? initRegion = some "\n  a();".toList := by
  have hsettled : diagnose handwritten = [] := by decide +kernel
  have hbody : (extract handwritten).get? initRegion = some "\n  a();".toList := by decide +kernel
  have hmodels : ∀ model ∈ ([(labelLayout "Ready.", .empty), (.empty, .empty)] : List Model),
      model.1.Unmarked := fun model hm => by
    rcases List.mem_cons.mp hm with rfl | hm
    · exact unmarked_label
    · obtain rfl := List.mem_singleton.mp hm
      exact fun text ht => by simp [Layout.shownTexts, Layout.empty, Layout.new] at ht
  obtain ⟨passes, hrun, -, hkept, -⟩ := history_carries hsettled hmodels
  refine ⟨passes, hrun, fun g hg => ?_⟩
  rw [hkept initRegion (fun model _ => emits_initRegion model) g hg, hbody, Option.getD_some]

end GuardedUi.Generation
