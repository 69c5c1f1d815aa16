import GuardedUi.Model.Layout
import GuardedUi.Proofs.Emit.Relevance
import GuardedUi.Proofs.Model.Widget
import GuardedUi.Proofs.Name.TreeNode

/-!
# `Proofs/Model/Layout` — the normal form of a layout document

A layout document can say the same in many ways: fields in any order, blanks between the tokens, a
list in the place of the outermost record, `null` for an id, a record for a stub. Of all that nothing
is left when the layout is written:

> **What is written for a layout that was read is read as that layout, without the events bound to
> nothing, and written again as it stands; and no document of the generator tells the two layouts
> apart** (`parse?_write_toJson`).

The one thing that is asked of the layout is that its numbers are read back from their numerals. A
numeral denotes its number and no other, but reading it takes a product or a quotient of doubles,
which can be one unit off.
-/

set_option autoImplicit false

namespace GuardedUi

open Json

/-! ## Events bound to nothing are not read by the generator -/

namespace Widget

theorem sameEvents_bound (events : Bag Binding) :
    SameEvents (events.filterMap fun _ b => b.bound?) events := by
  intro event _
  rw [Bag.get?_filterMap]
  cases events.get? event.property with
  | none => rfl
  | some b => cases b <;> rfl

mutual

theorem alike_boundOnly : ∀ w : Widget, Alike w.boundOnly w
  | ⟨_, _, children, _, events, _⟩ => by
    rw [boundOnly]
    exact .intro (sameEvents_bound events) ⟨fun _ _ => rfl, fun _ _ => rfl⟩
      (alikeAll_boundOnlyAll children)

theorem alikeAll_boundOnlyAll : ∀ children : List Widget,
    AlikeAll (boundOnlyAll children) children
  | [] => .nil
  | w :: rest => .cons (alike_boundOnly w) (alikeAll_boundOnlyAll rest)

end

end Widget

namespace Layout

/-- The layout without the events that are bound to nothing. -/
def boundOnly (layout : Layout) : Layout :=
  { layout with root := layout.root.map Widget.boundOnly }

/-- The numbers that the widgets of the layout have as properties. -/
def numbers (layout : Layout) : List Double :=
  layout.root.toList.flatMap Widget.numbers

theorem alike_boundOnly (layout : Layout) : layout.boundOnly.Alike layout := by
  unfold Layout.Alike boundOnly
  cases layout.root with
  | none => exact .none
  | some root => exact .some root.alike_boundOnly

theorem toJson_boundOnly (layout : Layout) : layout.boundOnly.toJson = layout.toJson := by
  unfold toJson boundOnly
  cases layout.root with
  | none => rfl
  | some root => rw [Option.map_some, Value.fieldIf, Value.fieldIf, root.toJson_boundOnly]

/-! ## What was read -/

/-- What a layout is like that was read, with a tree nested at most `depth` deep. -/
structure Sound (depth : Nat) (layout : Layout) : Prop where
  version : layout.version ≤ greatestCount
  root : ∀ root ∈ layout.root, root.Sound depth

theorem le_of_nat? {bound n : Nat} {tree : Tree} (h : Tree.nat? bound tree = some n) :
    n ≤ bound := by
  unfold Tree.nat? at h
  split at h
  · split at h
    · split at h
      · rw [← Option.some.inj h]
        omega
      · cases h
    · cases h
  · cases h

theorem sound_of_optional {depth : Nat} {field : Option Tree} {root : Option Widget}
    (hb : ∀ tree ∈ field, tree.Bounded)
    (h : Tree.optional (Widget.ofTree? depth) field = some root) :
    ∀ w ∈ root, w.Sound depth := by
  unfold Tree.optional at h
  split at h
  · rw [← Option.some.inj h]
    exact fun w hw => nomatch hw
  · rw [← Option.some.inj h]
    exact fun w hw => nomatch hw
  · rename_i tree _
    obtain ⟨read, hread, rfl⟩ := Option.map_eq_some_iff.mp h
    intro w hw
    exact Option.some.inj hw ▸ Widget.sound_of_ofTree? (hb tree rfl) hread

/-- **A layout that was read is sound.** -/
theorem sound_of_ofTree? {depth : Nat} {tree : Tree} {layout : Layout} (hb : tree.Bounded)
    (h : ofTree? (depth + 1) tree = some layout) : layout.Sound depth := by
  unfold ofTree? at h
  split at h
  · rename_i heq hfields
    obtain rfl := Nat.succ.inj heq
    obtain ⟨version, hversion, h⟩ := Option.bind_eq_some_iff.mp h
    obtain ⟨root, hroot, h⟩ := Option.bind_eq_some_iff.mp h
    rw [← Option.some.inj h]
    have hfield := Tree.bounded_of_fields? hb hfields
    exact ⟨le_of_nat? hversion, sound_of_optional (hfield _ (by simp)) hroot⟩
  · cases h

theorem sound_of_parse? {text : List Char} {layout : Layout} (h : parse? text = some layout) :
    layout.Sound (Tree.nestingLimit - 1) := by
  obtain ⟨tree, htree, hlayout⟩ := Option.bind_eq_some_iff.mp h
  exact sound_of_ofTree? (Tree.bounded_of_parse? htree) hlayout

/-! ## What is written -/

theorem ofChars?_write_ofNat {n : Nat} (h : n ≤ Literal.greatestWord) :
    Literal.ofChars? (Number.int n).write = some ⟨false, n, 0, true⟩ := by
  rw [Number.write, Name.toList_integerNumeral]
  exact Literal.ofChars?_digits h

theorem nat?_tree_ofNat {bound n : Nat} (h : n ≤ bound) (hword : n ≤ Literal.greatestWord) :
    Tree.nat? bound (Value.ofNat n).tree = some n := by
  rw [Value.ofNat, Value.tree, ofChars?_write_ofNat hword]
  simp [Tree.nat?, Literal.number?, h]

theorem le_greatestWord {n : Nat} (h : n ≤ greatestCount) : n ≤ Literal.greatestWord :=
  Nat.le_trans h (by decide)

variable {depth : Nat} {layout : Layout}

theorem legible_toJson (h : layout.Sound depth)
    (hnumbers : ∀ d ∈ layout.numbers, d.isFinite = true → d.ReadsBack) :
    layout.toJson.Legible := by
  refine .record (List.forall_mem_append.mpr ⟨List.forall_mem_singleton.mpr ?_, ?_⟩)
  · exact .number (ofChars?_write_ofNat (le_greatestWord h.version))
  · refine Value.legible_fieldIf fun root hroot => ?_
    refine Widget.legible_toJson (h.root root hroot) fun d hd => hnumbers d ?_
    exact List.mem_flatMap.mpr ⟨root, Option.mem_toList.mpr hroot, hd⟩

/-- The fields that a structure of a version and a root has in what is written. -/
theorem fields?_tree_toJson (layout : Layout) :
    Tree.fields? ["version", "root"] layout.toJson.tree =
      some [some (Value.ofNat layout.version).tree, layout.root.map fun root => root.toJson.tree] := by
  unfold toJson
  cases layout.root with
  | none =>
    simp [Value.fieldIf, Value.tree, Value.fieldTrees, Tree.fields?, Tree.namesSound, Tree.field?]
  | some root =>
    simp [Value.fieldIf, Value.tree, Value.fieldTrees, Tree.fields?, Tree.namesSound, Tree.field?]

theorem optional_tree_toJson {root : Option Widget} (h : ∀ w ∈ root, w.Sound depth)
    (hnumbers : ∀ d ∈ root.toList.flatMap Widget.numbers, d.isFinite = true → d.ReadsBack) :
    Tree.optional (Widget.ofTree? depth) (root.map fun root => root.toJson.tree) =
      some (root.map Widget.boundOnly) := by
  cases root with
  | none => rfl
  | some root =>
    have hback := Widget.ofTree?_tree_toJson (h root rfl) fun d hd =>
      hnumbers d (List.mem_flatMap.mpr ⟨root, List.mem_singleton_self root, hd⟩)
    obtain ⟨type, id, children, styleId, events, properties⟩ := root
    -- A record is not `null`.
    rw [Widget.toJson_eq, Value.tree] at hback
    rw [Option.map_some, Option.map_some, Widget.toJson_eq, Value.tree, Tree.optional, hback]
    · rfl
    · intro hnull
      cases hnull

/-- **A sound layout comes back from what is written, without the events bound to nothing.** -/
theorem ofTree?_tree_toJson (h : layout.Sound depth)
    (hnumbers : ∀ d ∈ layout.numbers, d.isFinite = true → d.ReadsBack) :
    ofTree? (depth + 1) layout.toJson.tree = some layout.boundOnly := by
  have hversion := nat?_tree_ofNat h.version (le_greatestWord h.version)
  have hroot := optional_tree_toJson h.root hnumbers
  unfold ofTree?
  rw [fields?_tree_toJson]
  simp only [hversion, hroot]
  rfl

/-- **The normal form of a layout document.** What is written for a layout that was read comes back
without the events bound to nothing, is written again as it stands, and has the same documents. -/
theorem parse?_write_toJson {text : List Char} (h : parse? text = some layout)
    (hnumbers : ∀ d ∈ layout.numbers, d.isFinite = true → d.ReadsBack) :
    parse? layout.toJson.write = some layout.boundOnly ∧
      layout.boundOnly.toJson.write = layout.toJson.write ∧
      ∀ (options : EmitOptions) (sheet : StyleSheet),
        Emission.emit options layout.boundOnly sheet = Emission.emit options layout sheet := by
  have hsound := sound_of_parse? h
  refine ⟨?_, ?_, fun options sheet => ?_⟩
  · rw [parse?, Value.parse?_write (legible_toJson hsound hnumbers), Option.bind_some]
    exact ofTree?_tree_toJson hsound hnumbers
  · rw [toJson_boundOnly]
  · exact Emission.emit_congr options layout.alike_boundOnly (.refl sheet)

/-- A layout as somebody may write it: a list in the place of the record, fields in any order,
numbers with and without a point, an event bound to nothing, one whose handler has blanks around its
name, and a stub that is asked for by a record. -/
def looseText : List Char :=
  ["[3, \x7b\"onPressed\": null, \"y\": 1.5,\n",
    "  \"onClicked\": \" save_all \", \"type\": \"button\",\n",
    "  \"x\": 12, \"hint\": \x7b\"b\": [true, 2e1], \"a\": null\x7d,\n",
    "  \"id\": null, \"children\": [\x7b\"styleId\": 7,\n",
    "    \"type\": \"label\", \"onFocused\": \x7b\"stub\": 1\x7d\x7d]\x7d]\n"].flatMap String.toList

/-- The normal form of the same layout. -/
def tightText : List Char :=
  ["\x7b\"version\":3,\"root\":\x7b\"type\":\"button\",",
    "\"children\":[\x7b\"type\":\"label\",\"onFocused\":true\x7d],",
    "\"onClicked\":\"save_all\",\"y\":1.5,\"x\":12.0,",
    "\"hint\":\x7b\"a\":null,\"b\":[true,20.0]\x7d\x7d\x7d"].flatMap String.toList

theorem parse?_write_toJson_looseText : ∃ layout, parse? looseText = some layout ∧
    (∀ d ∈ layout.numbers, d.isFinite = true → d.ReadsBack) ∧
    layout.toJson.write = tightText ∧ parse? tightText = some layout.boundOnly ∧
    layout.boundOnly.toJson.write = tightText ∧
    ∀ (options : EmitOptions) (sheet : StyleSheet),
      Emission.emit options layout.boundOnly sheet = Emission.emit options layout sheet := by
  have hread : ∃ layout ∈ parse? looseText,
      (∀ d ∈ layout.numbers, d.isFinite = true → d.ReadsBack) ∧
        layout.toJson.write = tightText := by
    decide +kernel
  obtain ⟨layout, hlayout, hnumbers, hwrite⟩ := hread
  have hnormal := parse?_write_toJson hlayout hnumbers
  rw [hwrite] at hnormal
  exact ⟨layout, hlayout, hnumbers, hwrite, hnormal⟩

/-- The double next to `1e-24` is written with all its digits and still read as its neighbor. -/
example : ¬ Double.ReadsBack ⟨4247835366853742248⟩ := by
  decide +kernel

end Layout

end GuardedUi
