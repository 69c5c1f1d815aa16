import GuardedUi.Proofs.Guard.Order

/-!
# `Proofs/Guard/Outline` — documents cut at their markers

Regions and merging are defined by positions in a document. An `Outline` is the same document without
positions: the pieces between the markers and the spellings of the markers, in order. An outline is
`Sound` if its pieces are what they stand for, so that scanning its text finds the markers where the
outline has them and nothing else.

> **A document for which nothing is diagnosed has a sound outline** (`exists_outline`).

So what holds of the texts of sound outlines holds of every document that user code is taken from,
and it is proved by induction on the outline. The texts of generated documents are built as outlines
from the front; what stands between their regions is put in by `prepend`.
-/

set_option autoImplicit false

namespace GuardedUi.Guard

/-- A document cut at its markers. -/
inductive Outline where
  /-- What stands behind the last marker. -/
  | tail (text : List Char)
  /-- A marker that belongs to no region, behind the text `lead`. -/
  | stray (lead : List Char) (kind : Kind) (id : String) (mark : List Char) (rest : Outline)
  /-- A region, behind the text `lead`. -/
  | region (lead : List Char) (id : String) (opening body closing : List Char) (rest : Outline)

namespace Outline

/-- The document. -/
def text : Outline → List Char
  | tail text => text
  | stray lead _ _ mark rest => lead ++ (mark ++ rest.text)
  | region lead _ opening body closing rest =>
    lead ++ (opening ++ (body ++ (closing ++ rest.text)))

/-- The keys of the markers. -/
def keys : Outline → List (Kind × String)
  | tail _ => []
  | stray _ kind id _ rest => (kind, id) :: rest.keys
  | region _ id _ _ _ rest => (.opening, id) :: (.closing, id) :: rest.keys

/-- The bodies of the regions by name. -/
def bodies : Outline → List (String × List Char)
  | tail _ => []
  | stray _ _ _ _ rest => rest.bodies
  | region _ id _ body _ rest => (id, body) :: rest.bodies

/-- The names of the regions. -/
def ids (o : Outline) : List String :=
  o.bodies.map Prod.fst

/-- The pieces are what they stand for. The names `done` have had their regions before. A slash
stands for the marker that comes next: the text before it must not make a marker with it. -/
inductive Sound : List String → Outline → Prop where
  | tail {done : List String} {text : List Char} : MarkerFree text → Sound done (.tail text)
  | stray {done : List String} {lead mark : List Char} {kind : Kind} {id : String}
      {rest : Outline} (hid : id ∈ done) (hlead : MarkerFree (lead ++ ['/']))
      (hmark : IsMarker kind id.toList mark) (hrest : Sound done rest) :
      Sound done (.stray lead kind id mark rest)
  | region {done : List String} {lead opening body closing : List Char} {id : String}
      {rest : Outline} (hid : id ∉ done) (hlead : MarkerFree (lead ++ ['/']))
      (hopening : IsMarker .opening id.toList opening) (hbody : MarkerFree (body ++ ['/']))
      (hclosing : IsMarker .closing id.toList closing) (hrest : Sound (id :: done) rest) :
      Sound done (.region lead id opening body closing rest)

/-! ## The markers of an outline -/

/-- The markers of a text that begins at `position`. -/
def markers (position : Nat) : Outline → List Marker
  | tail _ => []
  | stray lead kind id mark rest =>
    let start := position + lead.length
    ⟨kind, id, start, start + mark.length⟩ :: rest.markers (start + mark.length)
  | region lead id opening body closing rest =>
    let start := position + lead.length
    let finish := start + opening.length + body.length
    ⟨.opening, id, start, start + opening.length⟩ ::
      ⟨.closing, id, finish, finish + closing.length⟩ :: rest.markers (finish + closing.length)

theorem scanFrom_text {done : List String} {o : Outline} (h : o.Sound done) (position : Nat) :
    scanFrom position 0 o.text = o.markers position := by
  induction h generalizing position with
  | tail hf => exact scanFrom_eq_nil hf position 0
  | stray hid hlead hmark hrest ih =>
    rw [text, scanFrom_lead_append hmark hlead, ih, markers, String.ofList_toList]
  | region hid hlead hopening hbody hclosing hrest ih =>
    rw [text, scanFrom_lead_append hopening hlead, scanFrom_lead_append hclosing hbody, ih, markers,
      String.ofList_toList]

theorem map_key_markers (o : Outline) (position : Nat) :
    (o.markers position).map Marker.key = o.keys := by
  induction o generalizing position with
  | tail text => rfl
  | stray lead kind id mark rest ih => rw [markers, List.map_cons, ih]; rfl
  | region lead id opening body closing rest ih =>
    rw [markers, List.map_cons, List.map_cons, ih]; rfl

theorem keys_text {done : List String} {o : Outline} (h : o.Sound done) :
    Guard.keys o.text = o.keys := by
  rw [Guard.keys, scan, scanFrom_text h, map_key_markers]

theorem Sound.orderly {done : List String} {o : Outline} (h : o.Sound done) :
    Orderly done o.keys := by
  induction h with
  | tail => exact .nil _
  | stray hid _ _ _ ih => exact .stray hid ih
  | region hid _ _ _ _ _ ih => exact .region hid ih

/-- Of a sound outline only the names that are left open are diagnosed. -/
theorem diagnose_text {o : Outline} (h : o.Sound []) : diagnose o.text = [] ↔ Settled o.keys := by
  rw [diagnose_eq_nil_iff, keys_text h]
  exact and_iff_right h.orderly

/-- A text whose markers are in order, cut at them. -/
theorem exists_outline_of_orderly {done : List String} {found : List (Kind × String)}
    (h : Orderly done found) {text : List Char} (hkeys : Guard.keys text = found) :
    ∃ o : Outline, o.Sound done ∧ o.text = text := by
  induction h generalizing text with
  | nil done => exact ⟨.tail text, .tail (keys_eq_nil_iff.mp hkeys), rfl⟩
  | stray hid _ ih =>
    obtain ⟨lead, mark, rest, rfl, hmark, hlead, hothers⟩ := exists_of_keys_eq_cons hkeys
    obtain ⟨o, ho, rfl⟩ := ih hothers
    exact ⟨.stray lead _ _ mark o, .stray hid hlead hmark ho, rfl⟩
  | region hid _ ih =>
    obtain ⟨lead, opening, _, rfl, hopening, hlead, hnext⟩ := exists_of_keys_eq_cons hkeys
    obtain ⟨body, closing, rest, rfl, hclosing, hbody, hothers⟩ := exists_of_keys_eq_cons hnext
    obtain ⟨o, ho, rfl⟩ := ih hothers
    exact ⟨.region lead _ opening body closing o, .region hid hlead hopening hbody hclosing ho, rfl⟩

/-- **A document for which nothing is diagnosed has a sound outline.** -/
theorem exists_outline {document : List Char} (h : diagnose document = []) :
    ∃ o : Outline, o.Sound [] ∧ o.text = document :=
  exists_outline_of_orderly (diagnose_eq_nil_iff.mp h).1 rfl

/-! ## The regions of an outline -/

/-- The regions of a text that begins at `position`. -/
def regions (position : Nat) : Outline → List Region
  | tail _ => []
  | stray lead _ _ mark rest => rest.regions (position + lead.length + mark.length)
  | region lead id opening body closing rest =>
    let start := position + lead.length
    let finish := start + opening.length + body.length
    ⟨⟨.opening, id, start, start + opening.length⟩,
      ⟨.closing, id, finish, finish + closing.length⟩⟩ :: rest.regions (finish + closing.length)

theorem regionsFrom_markers {done : List String} {o : Outline} (h : o.Sound done)
    (position : Nat) : regionsFrom done (o.markers position) = o.regions position := by
  induction h generalizing position with
  | tail => rfl
  | stray hid _ _ _ ih => rw [markers, regionsFrom_stray hid, ih, regions]
  | region hid _ _ _ _ _ ih => rw [markers, regionsFrom_region rfl rfl hid, ih, regions]

theorem regions_scan_text {o : Outline} (h : o.Sound []) :
    Guard.regions (scan o.text) = o.regions 0 := by
  rw [scan, scanFrom_text h, Guard.regions, regionsFrom_markers h]

theorem nodup_ids {done : List String} {o : Outline} (h : o.Sound done) :
    o.ids.Nodup ∧ ∀ id ∈ o.ids, id ∉ done := by
  induction h with
  | tail => simp [ids, bodies]
  | stray _ _ _ _ ih => exact ih
  | region hid _ _ _ _ _ ih =>
    obtain ⟨hnodup, hnot⟩ := ih
    refine ⟨List.nodup_cons.mpr ⟨fun hm => hnot _ hm List.mem_cons_self, hnodup⟩, fun id hm => ?_⟩
    rcases List.mem_cons.mp hm with rfl | hm
    · exact hid
    · exact fun hd => hnot id hm (List.mem_cons_of_mem _ hd)

/-! ## Text in front -/

/-- The outline with more text in front. -/
def prepend (front : List Char) : Outline → Outline
  | tail text => .tail (front ++ text)
  | stray lead kind id mark rest => .stray (front ++ lead) kind id mark rest
  | region lead id opening body closing rest => .region (front ++ lead) id opening body closing rest

@[simp] theorem text_prepend (front : List Char) (o : Outline) :
    (o.prepend front).text = front ++ o.text := by
  cases o <;> simp [prepend, text]

@[simp] theorem keys_prepend (front : List Char) (o : Outline) : (o.prepend front).keys = o.keys := by
  cases o <;> rfl

@[simp] theorem bodies_prepend (front : List Char) (o : Outline) :
    (o.prepend front).bodies = o.bodies := by
  cases o <;> rfl

theorem Sound.prepend {done : List String} {o : Outline} {front : List Char} (h : o.Sound done)
    (hclosed : Closed front) (hfree : MarkerFree front) : (o.prepend front).Sound done := by
  have hfront : ∀ {text}, MarkerFree text → MarkerFree (front ++ text) := fun ht =>
    (markerFree_append (hclosed _)).mpr ⟨hfree, ht⟩
  cases h with
  | tail hf => exact .tail (hfront hf)
  | stray hid hlead hmark hrest =>
    exact .stray hid (List.append_assoc front _ ['/'] ▸ hfront hlead) hmark hrest
  | region hid hlead hopening hbody hclosing hrest =>
    exact .region hid (List.append_assoc front _ ['/'] ▸ hfront hlead) hopening hbody hclosing hrest

end Outline

end GuardedUi.Guard
