import GuardedUi.Proofs.Emit.Construction
import GuardedUi.Proofs.Emit.Header
import GuardedUi.Proofs.Guard.Filling

/-!
# `Proofs/Emit/Source` — the implementation document as a text with regions

What an implementation document is about comes from the model, and what it looks like is fixed:
lines without markers, a stub with a region for every handler, more lines, and the region of the
initializer. The first part of the file is about the lines, whose markers are those of the regions
and those of the texts of widgets. The second part is the same document as an outline with empty
regions, which it is if the texts have no markers.

> **A freshly emitted document has the markers of its regions, and between those of the stubs and
> that of the initializer the markers of its texts** (`keys_source`).

So a document is free of markers that the generator did not mean exactly if the texts are, since
texts go in as they are. `shown_marker_in_source` is a text that is not.
-/

set_option autoImplicit false

namespace GuardedUi

open Guard

namespace SourceSections

/-! ## Lines -/

/-- The lines of a stub before its region. -/
def stubHead (handler : String) : List String :=
  ["static void " ++ handler ++ "(lv_event_t * e) \x7b",
    indentation ++ "lv_obj_t * obj = lv_event_get_target(e);",
    indentation ++ "LV_UNUSED(obj);"]

/-- The lines of a stub behind its region. -/
def stubEnd : List String :=
  ["\x7d", ""]

/-- The lines of a stub. -/
def stubText (handler : String) : List String :=
  stubHead handler ++ regionText handler ++ stubEnd

/-- The lines before the stubs. -/
def front (s : SourceSections) : List String :=
  [banner, "#include \"" ++ s.headerName ++ "\"", ""] ++
    group (s.styleVariables.map fun name => "lv_style_t " ++ name ++ ";") ++
    group (s.widgetVariables.map fun name => "lv_obj_t *" ++ name ++ " = NULL;")

/-- The lines of the initializer before its region. -/
def initializerLines (s : SourceSections) : List String :=
  ["void " ++ s.initializer ++ "(void)", "\x7b"] ++ setupLines s.setup ++
    constructionLines s.construction

/-- The line behind the region of the initializer. -/
def ending : List String :=
  ["\x7d"]

/-- All the lines. -/
def allLines (s : SourceSections) : List String :=
  s.front ++ s.stubs.flatMap stubText ++ s.initializerLines ++ regionText initRegion ++ ending

theorem stubsLines_eq : ∀ {handlers : List String}, (∀ name ∈ handlers, IsWord name) →
    stubsLines handlers = .ok (handlers.flatMap stubText)
  | [], _ => rfl
  | handler :: rest, h => by
    have hstub : stubLines handler = .ok (stubText handler) := by
      rw [stubLines, regionLines_eq (h handler List.mem_cons_self)]
      rfl
    have hrest := stubsLines_eq fun name hn => h name (List.mem_cons_of_mem handler hn)
    rw [stubsLines, hstub, hrest, List.flatMap_cons]

/-- Nothing goes wrong if the stubs can have regions. -/
theorem exists_text {s : SourceSections} (h : ∀ name ∈ s.stubs, IsWord name) :
    ∃ source, s.text = .ok source ∧ source.toList = linesText s.allLines := by
  have hlines : s.lines = .ok s.allLines := by
    rw [lines, stubsLines_eq h, regionLines_eq (isRegionId_iff.mp (by decide))]
    simp [allLines, front, initializerLines, ending, List.append_assoc]
  refine ⟨endLines s.allLines, by rw [text, hlines]; rfl, toList_endLines ?_⟩
  simp [allLines, ending]

/-! ## Sections of models -/

/-- What model data becomes a part of, apart from texts, has no slash. -/
structure Tame (s : SourceSections) : Prop where
  headerName : SlashFree s.headerName
  initializer : SlashFree s.initializer
  styleVariables : ∀ name ∈ s.styleVariables, IsWord name
  widgetVariables : ∀ name ∈ s.widgetVariables, IsWord name
  stubs : ∀ name ∈ s.stubs, IsWord name ∧ name ≠ initRegion
  distinct : s.stubs.Nodup
  setup : ∀ statements ∈ s.setup, ∀ statement ∈ statements, SlashFree statement.line
  construction : ∀ statements ∈ s.construction, ∀ statement ∈ statements, statement.Tame

/-- The texts that the document shows. -/
def shown (s : SourceSections) : List String :=
  (s.construction.getD []).filterMap Statement.shown?

theorem Tame.keys_group {names : List String} (h : ∀ name ∈ names, IsWord name)
    (declare : String → String) (hd : ∀ name, SlashFree name → SlashFree (declare name)) :
    HasKeys (group (names.map declare)) [] := by
  refine HasKeys.of_slashFree fun line hl => ?_
  rw [group] at hl
  split at hl
  · simp at hl
  · rcases List.mem_append.mp hl with hl | hl
    · obtain ⟨name, hn, rfl⟩ := List.mem_map.mp hl
      exact hd name (h name hn).slashFree
    · obtain rfl := List.mem_singleton.mp hl
      decide

/-- The lines before the stubs have no markers. -/
theorem Tame.keys_front {s : SourceSections} (h : s.Tame) : HasKeys s.front [] := by
  have hbanner : HasKeys [banner] [] :=
    HasKeys.of_comment "/* Generated by LVCraft - do not edit " (by decide)
      (by decide +kernel)
  have hinclude : HasKeys ["#include \"" ++ s.headerName ++ "\"", ""] [] := by
    refine HasKeys.of_slashFree ?_
    simp only [List.mem_cons, List.not_mem_nil, or_false, forall_eq_or_imp, forall_eq,
      slashFree_append, h.headerName, and_true]
    decide
  have hstyles := keys_group h.styleVariables (fun name => "lv_style_t " ++ name ++ ";")
    fun name hn => slashFree_append.mpr ⟨slashFree_append.mpr ⟨by decide, hn⟩, by decide⟩
  have hwidgets := keys_group h.widgetVariables (fun name => "lv_obj_t *" ++ name ++ " = NULL;")
    fun name hn => slashFree_append.mpr ⟨slashFree_append.mpr ⟨by decide, hn⟩, by decide⟩
  exact ((hbanner.append hinclude).append hstyles).append hwidgets

theorem keys_stubHead {handler : String} (h : IsWord handler) :
    HasKeys (stubHead handler) [] := by
  refine HasKeys.of_slashFree ?_
  simp only [stubHead, List.mem_cons, List.not_mem_nil, or_false, forall_eq_or_imp, forall_eq,
    slashFree_append, h.slashFree, and_true]
  decide

theorem keys_stubEnd : HasKeys stubEnd [] :=
  HasKeys.of_slashFree (by decide)

theorem keys_stubText {handler : String} (h : IsWord handler) :
    HasKeys (stubText handler) (regionKeys [handler]) := by
  simpa [stubText] using ((keys_stubHead h).append (HasKeys.of_region h)).append keys_stubEnd

/-- The lines of the initializer have the markers of the texts. -/
theorem Tame.keys_initializer {s : SourceSections} (h : s.Tame) :
    HasKeys s.initializerLines (s.shown.flatMap fun text => keys text.toList) := by
  have hhead : HasKeys ["void " ++ s.initializer ++ "(void)", "\x7b"] [] := by
    refine HasKeys.of_slashFree ?_
    simp only [List.mem_cons, List.not_mem_nil, or_false, forall_eq_or_imp, forall_eq,
      slashFree_append, h.initializer, and_true]
    decide
  have hsetup : HasKeys (setupLines s.setup) [] := by
    refine HasKeys.of_slashFree fun line hl => ?_
    obtain ⟨statements, hs, hl⟩ := List.mem_flatMap.mp hl
    rcases List.mem_append.mp hl with hl | hl
    · obtain ⟨statement, hm, rfl⟩ := List.mem_map.mp hl
      exact h.setup statements hs statement hm
    · obtain rfl := List.mem_singleton.mp hl
      decide
  have hconstruction : HasKeys (constructionLines s.construction)
      (s.shown.flatMap fun text => keys text.toList) := by
    rw [shown]
    cases hc : s.construction with
    | none =>
      exact HasKeys.of_comment "  /* Empty layout " (by decide) (by decide +kernel)
    | some statements => exact HasKeys.of_statements (h.construction statements hc)
  simpa [initializerLines] using (hhead.append hsetup).append hconstruction

/-- The section of the stubs has the markers of their regions. -/
theorem Tame.keys_stubs {s : SourceSections} (h : s.Tame) :
    HasKeys (s.stubs.flatMap stubText) (regionKeys s.stubs) := by
  have := HasKeys.flatMap fun name hn => keys_stubText (h.stubs name hn).1
  simpa [regionKeys] using this

/-- **The markers of the lines of a document**: those of its regions, and those of its texts. -/
theorem Tame.keys_lines {s : SourceSections} (h : s.Tame) :
    HasKeys s.allLines (regionKeys s.stubs ++ (s.shown.flatMap fun text => keys text.toList) ++
      regionKeys [initRegion]) := by
  have hregion : HasKeys (regionText initRegion) (regionKeys [initRegion]) :=
    HasKeys.of_region (isRegionId_iff.mp (by decide))
  have hending : HasKeys ending [] := HasKeys.of_slashFree (by decide)
  simpa [allLines] using
    (((h.keys_front.append h.keys_stubs).append h.keys_initializer).append hregion).append hending

end SourceSections

/-! ## The document as an outline -/

theorem isIndent_indentation : IsIndent indentation.toList := by
  exact ⟨List.all_eq_true.mp (by decide), by decide⟩

/-- An empty region inside a function. -/
def emptyRegion (id : String) (rest : Outline) : Outline :=
  .region indentation.toList id (Kind.opening.text id).toList ('\n' :: indentation.toList)
    (Kind.closing.text id).toList (rest.prepend ['\n'])

theorem text_emptyRegion (id : String) (rest : Outline) :
    (emptyRegion id rest).text = linesText (regionText id) ++ rest.text := by
  simp [emptyRegion, Outline.text, regionText, linesText_cons, String.toList_append]

theorem sound_emptyRegion {done : List String} {id : String} {rest : Outline} (h : IsWord id)
    (hid : id ∉ done) (hrest : rest.Sound (id :: done)) : (emptyRegion id rest).Sound done := by
  have hbody : MarkerFree ('\n' :: indentation.toList ++ ['/']) :=
    markerFree_body (markerFree_of_slash_not_mem List.not_mem_nil) isIndent_indentation.1
  refine .region hid (hbody.of_isInfix (List.suffix_cons _ _).isInfix) (isMarker_text .opening h)
    hbody (isMarker_text .closing h) ?_
  exact hrest.prepend (closed_of_slash_not_mem (by decide))
    (markerFree_of_slash_not_mem (by decide))

theorem HasKeys.prepend {lines : List String} (h : HasKeys lines []) {done : List String}
    {o : Outline} (ho : o.Sound done) : (o.prepend (linesText lines)).Sound done :=
  ho.prepend h.closed h.markerFree

namespace SourceSections

/-- The stubs of several handlers. -/
def stubsOutline : List String → Outline → Outline
  | [], rest => rest
  | handler :: others, rest =>
    (emptyRegion handler ((stubsOutline others rest).prepend (linesText stubEnd))).prepend
      (linesText (stubHead handler))

/-- The document, if no text has a marker. -/
def outline (s : SourceSections) : Outline :=
  (stubsOutline s.stubs
    ((emptyRegion initRegion (.tail (linesText ending))).prepend
      (linesText s.initializerLines))).prepend (linesText s.front)

theorem text_stubsOutline (handlers : List String) (rest : Outline) :
    (stubsOutline handlers rest).text = linesText (handlers.flatMap stubText) ++ rest.text := by
  induction handlers with
  | nil => rfl
  | cons handler others ih =>
    simp [stubsOutline, text_emptyRegion, ih, stubText, List.append_assoc]

theorem text_outline (s : SourceSections) : s.outline.text = linesText s.allLines := by
  simp [outline, allLines, text_stubsOutline, text_emptyRegion, Outline.text, List.append_assoc]

theorem keys_stubsOutline (handlers : List String) (rest : Outline) :
    (stubsOutline handlers rest).keys = regionKeys handlers ++ rest.keys := by
  induction handlers with
  | nil => rfl
  | cons handler others ih => simp [stubsOutline, emptyRegion, Outline.keys, ih, regionKeys]

theorem keys_outline (s : SourceSections) :
    s.outline.keys = regionKeys (s.stubs ++ [initRegion]) := by
  simp [outline, keys_stubsOutline, emptyRegion, Outline.keys, regionKeys]

theorem bodies_stubsOutline (handlers : List String) (rest : Outline) :
    (stubsOutline handlers rest).bodies =
      (handlers.map fun id => (id, '\n' :: indentation.toList)) ++ rest.bodies := by
  induction handlers with
  | nil => rfl
  | cons handler others ih => simp [stubsOutline, emptyRegion, Outline.bodies, ih]

/-- All bodies are the line break and the indentation between the two lines of a region. -/
theorem bodies_outline (s : SourceSections) :
    s.outline.bodies =
      (s.stubs ++ [initRegion]).map fun id => (id, '\n' :: indentation.toList) := by
  simp [outline, bodies_stubsOutline, emptyRegion, Outline.bodies]

theorem ids_outline (s : SourceSections) : s.outline.ids = s.stubs ++ [initRegion] := by
  rw [Outline.ids, bodies_outline, List.map_map]
  simp [Function.comp_def]

theorem unfilled_outline (s : SourceSections) : s.outline.Unfilled := by
  intro e he
  rw [bodies_outline] at he
  obtain ⟨id, -, rfl⟩ := List.mem_map.mp he
  exact ⟨indentation.toList, isIndent_indentation, rfl⟩

theorem sound_stubsOutline {handlers done : List String} {rest : Outline}
    (hwords : ∀ name ∈ handlers, IsWord name) (hnodup : handlers.Nodup)
    (hnot : ∀ name ∈ handlers, name ∉ done)
    (hrest : ∀ names, (∀ name ∈ names, name ∈ done ∨ name ∈ handlers) → rest.Sound names) :
    (stubsOutline handlers rest).Sound done := by
  induction handlers generalizing done with
  | nil => exact hrest done fun name hn => Or.inl hn
  | cons handler others ih =>
    obtain ⟨hne, hothers⟩ := List.nodup_cons.mp hnodup
    have hword := hwords handler List.mem_cons_self
    -- The other stubs stand behind this one, whose name is done for them.
    have hinner : (stubsOutline others rest).Sound (handler :: done) := by
      refine ih (fun name hn => hwords name (List.mem_cons_of_mem handler hn)) hothers
        (fun name hn hd => ?_) fun names hnames => hrest names fun name hn => ?_
      · rcases List.mem_cons.mp hd with rfl | hd
        · exact hne hn
        · exact hnot name (List.mem_cons_of_mem handler hn) hd
      · rcases hnames name hn with hd | ho
        · rcases List.mem_cons.mp hd with rfl | hd
          · exact Or.inr List.mem_cons_self
          · exact Or.inl hd
        · exact Or.inr (List.mem_cons_of_mem handler ho)
    exact HasKeys.prepend (keys_stubHead hword)
      (sound_emptyRegion hword (hnot handler List.mem_cons_self)
        (HasKeys.prepend keys_stubEnd hinner))

theorem Tame.sound_outline {s : SourceSections} (h : s.Tame)
    (hshown : ∀ text ∈ s.shown, MarkerFree text.toList) : s.outline.Sound [] := by
  have hinitializer : HasKeys s.initializerLines [] := by
    have hnil : (s.shown.flatMap fun text => keys text.toList) = [] :=
      List.flatMap_eq_nil_iff.mpr fun text ht => keys_eq_nil (hshown text ht)
    exact hnil ▸ h.keys_initializer
  have hending : HasKeys ending [] := HasKeys.of_slashFree (by decide)
  refine HasKeys.prepend h.keys_front (sound_stubsOutline (fun name hn => (h.stubs name hn).1)
    h.distinct (by simp) fun names hnames => HasKeys.prepend hinitializer ?_)
  refine sound_emptyRegion (isRegionId_iff.mp (by decide)) (fun hm => ?_) (.tail hending.markerFree)
  rcases hnames initRegion hm with hd | hs
  · simp at hd
  · exact (h.stubs initRegion hs).2 rfl

end SourceSections

/-! ## Emission -/

namespace Emission

theorem tame_sections (layout : Layout) (sheet : StyleSheet) :
    (sections .standard layout sheet).Tame where
  headerName := by
    have : SlashFree "ui.h" := by decide
    exact this
  initializer := by
    have : SlashFree "ui_init" := by decide
    exact this
  styleVariables := by
    intro name hn
    obtain ⟨style, -, rfl⟩ := List.mem_map.mp hn
    exact Name.isWord_styleVariable style.id
  widgetVariables := by
    intro name hn
    obtain ⟨identifier, hi, rfl⟩ := List.mem_map.mp hn
    obtain ⟨entry, he, rfl⟩ := List.mem_map.mp hi
    exact Name.isWord_widgetVariable
      (Name.wordy_assign layout.root entry.1 entry.2 (Bag.get?_eq_some_iff.mpr he))
  stubs := (Construction.tame_ofRoot sheet layout.root).stubs
  distinct := Stubs.distinct _
  setup := by
    intro statements hs
    obtain ⟨style, -, rfl⟩ := List.mem_map.mp hs
    exact StyleStatement.slashFree_line
  construction := by
    intro statements hs
    obtain ⟨root, -, rfl⟩ := Option.map_eq_some_iff.mp hs
    exact (Construction.tame_ofRoot sheet layout.root).statements

/-- The texts of the document are those of the tree. -/
theorem shown_sections (options : EmitOptions) (layout : Layout) (sheet : StyleSheet) :
    (sections options layout sheet).shown = layout.shownTexts := by
  rw [← Construction.filterMap_shown?_ofRoot sheet layout, SourceSections.shown, sections]
  cases layout.root <;> rfl

/-- **Every model can be emitted**, whatever the documents and the initializer are called. -/
theorem exists_emit (options : EmitOptions) (layout : Layout) (sheet : StyleSheet) :
    ∃ emission, emit options layout sheet = .ok emission ∧
      emission.identifiers = Name.assign layout.root ∧
      emission.stubs = (sections options layout sheet).stubs ∧
      emission.header.toList = linesText (headerLines options
        (styleVariables sheet) (widgetVariables (Name.assign layout.root))) ∧
      emission.source.toList = linesText (sections options layout sheet).allLines := by
  obtain ⟨source, hsource, htext⟩ := SourceSections.exists_text
    (s := sections options layout sheet)
    fun name hn => ((Construction.tame_ofRoot sheet layout.root).stubs name hn).1
  obtain ⟨header, hheader, hlines⟩ := render_header options
    (sections options layout sheet).styleVariables (sections options layout sheet).widgetVariables
  refine ⟨⟨header, source, Name.assign layout.root, _⟩, ?_, rfl, rfl, hlines, htext⟩
  simp only [emit, hheader, hsource]

/-- With the standard names, the implementation document is an outline. -/
theorem exists_emission (layout : Layout) (sheet : StyleSheet) :
    ∃ emission, emit .standard layout sheet = .ok emission ∧
      emission.stubs = (sections .standard layout sheet).stubs ∧
      emission.source.toList = (sections .standard layout sheet).outline.text := by
  obtain ⟨emission, hemit, -, hstubs, -, hsource⟩ := exists_emit .standard layout sheet
  exact ⟨emission, hemit, hstubs, by rw [hsource, SourceSections.text_outline]⟩

end Emission

/-! ## Marker-clean documents -/

/-- No text that a widget shows has a marker. -/
def Layout.Unmarked (layout : Layout) : Prop :=
  ∀ text ∈ layout.shownTexts, MarkerFree text.toList

theorem Layout.Unmarked.sound_outline {layout : Layout} (h : layout.Unmarked) (sheet : StyleSheet) :
    (Emission.sections .standard layout sheet).outline.Sound [] := by
  refine (Emission.tame_sections layout sheet).sound_outline fun text ht => h text ?_
  rw [← Emission.shown_sections .standard layout sheet]
  exact ht

theorem Emission.keys_sections (layout : Layout) (sheet : StyleSheet) :
    keys (sections .standard layout sheet).outline.text =
      regionKeys (sections .standard layout sheet).stubs ++
        (layout.shownTexts.flatMap fun text => keys text.toList) ++ regionKeys [initRegion] := by
  rw [SourceSections.text_outline, (tame_sections layout sheet).keys_lines.keys, shown_sections]

/-- **The markers of a freshly emitted document.** It has the markers of its regions and no others
exactly if no text that a widget shows has a marker; then its regions are those of the stubs and of
the initializer, and all of them are empty. -/
theorem keys_source (layout : Layout) (sheet : StyleSheet) :
    ∃ emission, Emission.emit .standard layout sheet = .ok emission ∧
      (scan emission.source.toList).map Marker.key =
        regionKeys emission.stubs ++
          (layout.shownTexts.flatMap fun text => (scan text.toList).map Marker.key) ++
          regionKeys [initRegion] ∧
      ((scan emission.source.toList).map Marker.key =
        regionKeys (emission.stubs ++ [initRegion]) ↔ layout.Unmarked) ∧
      (layout.Unmarked →
        diagnose emission.source.toList = [] ∧
        (regions (scan emission.source.toList)).map Region.id = emission.stubs ++ [initRegion] ∧
        (emission.stubs ++ [initRegion]).Nodup ∧
        (extract emission.source.toList).entries =
          (emission.stubs ++ [initRegion]).map fun id => (id, [])) := by
  obtain ⟨emission, hemit, hstubs, hsource⟩ := Emission.exists_emission layout sheet
  have hkeys := Emission.keys_sections layout sheet
  rw [← hstubs, ← hsource] at hkeys
  refine ⟨emission, hemit, hkeys, ?_, fun hclean => ?_⟩
  · rw [show (scan emission.source.toList).map Marker.key = keys emission.source.toList from rfl,
      hkeys, regionKeys_append, List.append_left_inj, List.append_right_eq_self,
      List.flatMap_eq_nil_iff]
    exact forall₂_congr fun text _ => keys_eq_nil_iff
  · -- The document is the text of an outline, so its blocks are the bodies of that.
    have hsound := hclean.sound_outline sheet
    have hentries : (extract emission.source.toList).entries =
        (emission.stubs ++ [initRegion]).map fun id => (id, []) := by
      rw [hsource, hstubs, Outline.entries_extract_text hsound, SourceSections.bodies_outline,
        List.map_map]
      exact List.map_congr_left fun id _ =>
        Prod.ext rfl (trimEnd_append_indent [] isIndent_indentation.1)
    have hids : (regions (scan emission.source.toList)).map Region.id =
        emission.stubs ++ [initRegion] := by
      have hnames := congrArg (List.map Prod.fst) hentries
      rw [entries_extract, List.map_map, List.map_map] at hnames
      simpa [Function.comp_def] using hnames
    refine ⟨?_, hids, ?_, hentries⟩
    · rw [hsource, Outline.diagnose_text hsound, SourceSections.keys_outline]
      exact settled_regionKeys _
    · rw [hstubs, ← SourceSections.ids_outline]
      exact (Outline.nodup_ids hsound).1

/-- A label that shows the text. -/
def labelLayout (text : String) : Layout :=
  .new (some ((Widget.new "label").withProperty "text" (.text text)))

theorem unmarked_label : (labelLayout "Ready.").Unmarked := by
  have htexts : ∀ text ∈ (labelLayout "Ready.").shownTexts, keys text.toList = [] := by
    decide +kernel
  exact fun text ht => keys_eq_nil_iff.mp (htexts text ht)

theorem keys_source_label :
    ∃ emission, Emission.emit .standard (labelLayout "Ready.") .empty = .ok emission ∧
      diagnose emission.source.toList = [] ∧
      (extract emission.source.toList).entries =
        (emission.stubs ++ [initRegion]).map fun id => (id, []) := by
  obtain ⟨emission, hemit, -, -, hclean⟩ := keys_source (labelLayout "Ready.") .empty
  obtain ⟨hdiagnose, -, -, hentries⟩ := hclean unmarked_label
  exact ⟨emission, hemit, hdiagnose, hentries⟩

/-- A text that opens a region is a marker of the document, and what is emitted is damaged. -/
theorem shown_marker_in_source :
    ∃ emission, Emission.emit .standard (labelLayout "/* USER CODE BEGIN x */") .empty =
        .ok emission ∧
      (scan emission.source.toList).map Marker.key =
        [(.opening, "x"), (.opening, "init"), (.closing, "init")] ∧
      (scan emission.source.toList).map Marker.key ≠
        regionKeys (emission.stubs ++ [initRegion]) ∧
      diagnose emission.source.toList ≠ [] := by
  obtain ⟨emission, hemit, hstubs, hsource⟩ :=
    Emission.exists_emission (labelLayout "/* USER CODE BEGIN x */") .empty
  have hnone : emission.stubs = [] := by
    rw [hstubs]
    decide +kernel
  have htexts : (labelLayout "/* USER CODE BEGIN x */").shownTexts.flatMap
      (fun text => keys text.toList) = [(.opening, "x")] := by
    decide +kernel
  have hkeys := Emission.keys_sections (labelLayout "/* USER CODE BEGIN x */") .empty
  rw [← hsource, ← hstubs, hnone, htexts] at hkeys
  refine ⟨emission, hemit, hkeys, fun heq => ?_, fun hnil => ?_⟩
  · rw [hnone] at heq
    exact absurd (hkeys.symm.trans heq) (by decide)
  · have hsettled := (diagnose_eq_nil_iff.mp hnil).2
    rw [hkeys] at hsettled
    exact absurd (hsettled [] "x" _ rfl) (by decide)

end GuardedUi
