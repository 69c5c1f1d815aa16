import GuardedUi.Proofs.Json.Reading
import GuardedUi.Proofs.Model.Property
import Mathlib.Data.List.Forall2

/-!
# `Proofs/Model/Agreement` — two ways to read a property

The properties of a style are read straight from the document, those of a widget by way of JSON
values. The records that come out look different: on the first way a repeated name keeps its first
place, on the second one the fields are put in the order of their names. But on both ways the last
value that the document gives to a name is what is found under the name (`lookup_ofList`,
`lookup_sortFields`), and that is all that is said about a record by `Same`. So

> **At every place of a document both readings fail or both succeed, with the same property. And a
> property is the same after it has become a JSON value**, if its numbers are finite
> (`readings_agree`).

`Same` asks for identical numbers. The test that runs, `agrees`, takes the two zeros for equal, but
not NaN for NaN, so it confirms only that properties with finite numbers are the same
(`agrees_of_same`). Documents have no other numbers (`sound_of_ofTree?`).
-/

set_option autoImplicit false

namespace GuardedUi

open Json

/-! ## What is under a name -/

section

variable {α : Type}

/-- Of fields that are put one after the other the last one of a name counts. -/
theorem lookup_foldl {put : String → α → List (String × α) → List (String × α)}
    (hput : ∀ name value fields other, (put name value fields).lookup other =
      if other = name then some value else fields.lookup other)
    (fields : List (String × α)) (before : List (String × α)) (name : String) :
    (fields.foldl (fun before field => put field.1 field.2 before) before).lookup name =
      (fields.reverse.lookup name).or (before.lookup name) := by
  induction fields generalizing before with
  | nil => rfl
  | cons field rest ih =>
    rw [List.foldl_cons, ih, hput, List.reverse_cons, List.lookup_append, Option.or_assoc,
      lookup_cons_eq]
    split <;> rfl

theorem lookup_sortFields (fields : List (String × α)) (name : String) :
    (sortFields fields).lookup name = fields.reverse.lookup name := by
  rw [sortFields, lookup_foldl lookup_putSorted, List.lookup_nil, Option.or_none]

theorem lookup_ofList (fields : List (String × α)) (name : String) :
    (Bag.ofList fields).entries.lookup name = fields.reverse.lookup name := by
  have hentries : (Bag.ofList fields).entries =
      fields.foldl (fun entries field => Bag.putEntry field.1 field.2 entries) [] :=
    (List.foldl_hom Bag.entries fun _ _ => rfl).symm
  rw [hentries, lookup_foldl Bag.lookup_putEntry, List.lookup_nil, Option.or_none]

theorem nodup_names_sortFields (fields : List (String × α)) :
    ((sortFields fields).map Prod.fst).Nodup := by
  have hsorted := sorted_iff_names.mp (sorted_sortFields fields)
  refine hsorted.imp fun {a b} hlt => ?_
  rintro rfl
  exact List.lt_irrefl _ hlt

theorem mem_names_iff {fields : List (String × α)} {name : String} :
    name ∈ fields.map Prod.fst ↔ (fields.lookup name).isSome = true := by
  rw [List.mem_map, List.lookup_isSome_iff]
  refine exists_congr fun field => and_congr_right fun _ => ?_
  rw [beq_iff_eq, eq_comm]

/-- Records have the same names if something is under the same names. -/
theorem perm_names {β : Type} {R : α → β → Prop} {as : List (String × α)} {bs : List (String × β)}
    (ha : (as.map Prod.fst).Nodup) (hb : (bs.map Prod.fst).Nodup)
    (h : ∀ name, Option.Rel R (as.lookup name) (bs.lookup name)) :
    (as.map Prod.fst).Perm (bs.map Prod.fst) := by
  refine (List.perm_ext_iff_of_nodup ha hb).mpr fun name => ?_
  have hname := h name
  rw [mem_names_iff, mem_names_iff]
  generalize as.lookup name = a at hname ⊢
  generalize bs.lookup name = b at hname ⊢
  cases hname <;> simp

end

namespace Property

/-! ## The same property -/

/-- The two are the same property: what was written has one meaning, but records may list their
fields in another order. -/
inductive Same : Property → Property → Prop where
  | null : Same .null .null
  | flag {value : Bool} : Same (.flag value) (.flag value)
  | number {value : Double} : Same (.number value) (.number value)
  | text {content : String} : Same (.text content) (.text content)
  | list {as bs : List Property} (h : List.Forall₂ Same as bs) : Same (.list as) (.list bs)
  | record {as bs : List (String × Property)} (hnames : (as.map Prod.fst).Perm (bs.map Prod.fst))
    (h : ∀ name, Option.Rel Same (as.lookup name) (bs.lookup name)) : Same (.record as) (.record bs)

/-- All numbers are finite, and no record has a name twice. -/
inductive Sound : Property → Prop where
  | null : Sound .null
  | flag {value : Bool} : Sound (.flag value)
  | number {value : Double} (h : value.isFinite = true) : Sound (.number value)
  | text {content : String} : Sound (.text content)
  | list {items : List Property} (h : ∀ item ∈ items, Sound item) : Sound (.list items)
  | record {fields : List (String × Property)} (hnames : (fields.map Prod.fst).Nodup)
    (h : ∀ field ∈ fields, Sound field.2) : Sound (.record fields)

/-- The field has the name and the meaning of one of a JSON value. -/
def FieldMeans (field : String × Property) (value : String × Value) : Prop :=
  field.1 = value.1 ∧ Same field.2 (ofValue value.2)

theorem lookup_ofRecord (values : List (String × Value)) (name : String) :
    (ofRecord values).lookup name = (values.lookup name).map ofValue := by
  induction values with
  | nil => rfl
  | cons value rest ih =>
    obtain ⟨n, v⟩ := value
    rw [ofRecord, lookup_cons_eq, lookup_cons_eq, ih]
    split <;> rfl

theorem rel_lookup {as : List (String × Property)} {values : List (String × Value)}
    (h : List.Forall₂ FieldMeans as values) (name : String) :
    Option.Rel Same (as.lookup name) ((values.lookup name).map ofValue) := by
  induction h with
  | nil => exact .none
  | @cons field value _ _ hfield _ ih =>
    obtain ⟨n, p⟩ := field
    obtain ⟨n', v⟩ := value
    obtain ⟨hname, hsame⟩ := hfield
    obtain rfl : n = n' := hname
    rw [lookup_cons_eq, lookup_cons_eq]
    split
    · exact .some hsame
    · exact ih

/-- **Records of the same fields are the same**, with their fields in the order in which they came,
or in that of their names. -/
theorem same_record {as : List (String × Property)} {values : List (String × Value)}
    (h : List.Forall₂ FieldMeans as values) :
    Same (.record (Bag.ofList as).entries) (ofValue (.record (sortFields values))) := by
  have hlookup : ∀ name, Option.Rel Same ((Bag.ofList as).entries.lookup name)
      ((ofRecord (sortFields values)).lookup name) := by
    intro name
    rw [lookup_ofList, lookup_ofRecord, lookup_sortFields]
    exact rel_lookup (List.forall₂_reverse_iff.mpr h) name
  have hnames : ((ofRecord (sortFields values)).map Prod.fst).Nodup := by
    rw [map_fst_ofRecord]
    exact nodup_names_sortFields values
  rw [ofValue]
  exact .record (perm_names (Bag.ofList as).distinct hnames hlookup) hlookup

/-! ## Reading -/

mutual

/-- **Both readings of a tree fail, or both succeed with the same property.** -/
theorem same_ofTree? (depth : Nat) : ∀ tree : Tree,
    Option.Rel (fun p v => Same p (ofValue v)) (ofTree? depth tree) (Value.ofTree? depth tree)
  | .null => .some .null
  | .bool _ => .some .flag
  | .number literal => by
    rw [ofTree?, Value.ofTree?]
    cases literal.number? with
    | none => exact .none
    | some n => exact .some .number
  | .text content => by
    rw [ofTree?, Value.ofTree?]
    cases content with
    | none => exact .none
    | some content => exact .some .text
  | .list items => by
    cases depth with
    | zero => exact .none
    | succ depth =>
      have hitems := same_ofItems? depth items
      rw [ofTree?, Value.ofTree?]
      generalize ofItems? depth items = ps at hitems ⊢
      generalize Value.ofItems? depth items = vs at hitems ⊢
      cases hitems with
      | none => exact .none
      | some h => exact .some (.list h)
  | .record fields => by
    cases depth with
    | zero => exact .none
    | succ depth =>
      have hfields := same_ofFields? depth fields
      rw [ofTree?, Value.ofTree?]
      generalize ofFields? depth fields = ps at hfields ⊢
      generalize Value.ofFields? depth fields = vs at hfields ⊢
      cases hfields with
      | none => exact .none
      | some h => exact .some (same_record h)

theorem same_ofItems? (depth : Nat) : ∀ items : List Tree,
    Option.Rel (fun ps vs => List.Forall₂ Same ps (ofValues vs)) (ofItems? depth items)
      (Value.ofItems? depth items)
  | [] => .some .nil
  | item :: rest => by
    have hitem := same_ofTree? depth item
    have hrest := same_ofItems? depth rest
    rw [ofItems?, Value.ofItems?]
    generalize ofTree? depth item = p at hitem ⊢
    generalize Value.ofTree? depth item = v at hitem ⊢
    generalize ofItems? depth rest = ps at hrest ⊢
    generalize Value.ofItems? depth rest = vs at hrest ⊢
    cases hitem with
    | none => exact .none
    | some hsame =>
      cases hrest with
      | none => exact .none
      | some hsames => exact .some (.cons hsame hsames)

theorem same_ofFields? (depth : Nat) : ∀ fields : List (Content × Tree),
    Option.Rel (List.Forall₂ FieldMeans) (ofFields? depth fields) (Value.ofFields? depth fields)
  | [] => .some .nil
  | (name, tree) :: rest => by
    have htree := same_ofTree? depth tree
    have hrest := same_ofFields? depth rest
    unfold ofFields? Value.ofFields?
    generalize ofTree? depth tree = p at htree ⊢
    generalize Value.ofTree? depth tree = v at htree ⊢
    generalize ofFields? depth rest = ps at hrest ⊢
    generalize Value.ofFields? depth rest = vs at hrest ⊢
    cases name with
    | none => exact .none
    | some name =>
      cases htree with
      | none => exact .none
      | some hsame =>
        cases hrest with
        | none => exact .none
        | some hsames => exact .some (.cons ⟨rfl, hsame⟩ hsames)

end

/-! ## Becoming a JSON value -/

mutual

/-- **A property is the same after it has become a JSON value.** -/
theorem same_toValue : ∀ {p : Property}, p.Sound → Same p (ofValue p.toValue)
  | .null, _ => .null
  | .flag _, _ => .flag
  | .text _, _ => .text
  | .number d, .number hfinite => by
    rw [toValue, if_pos hfinite]
    exact .number
  | .list items, .list hitems => .list (same_toValues hitems)
  | .record fields, .record hnames hfields => by
    have hsame := same_record (same_toRecord hfields)
    rw [Bag.entries_ofList hnames] at hsame
    exact hsame

theorem same_toValues : ∀ {items : List Property}, (∀ item ∈ items, item.Sound) →
    List.Forall₂ Same items (ofValues (toValues items))
  | [], _ => .nil
  | item :: rest, h => by
    obtain ⟨hitem, hrest⟩ := List.forall_mem_cons.mp h
    exact .cons (same_toValue hitem) (same_toValues hrest)

theorem same_toRecord : ∀ {fields : List (String × Property)},
    (∀ field ∈ fields, field.2.Sound) → List.Forall₂ FieldMeans fields (toRecord fields)
  | [], _ => .nil
  | (name, value) :: rest, h => by
    obtain ⟨hfield, hrest⟩ := List.forall_mem_cons.mp h
    exact .cons ⟨rfl, same_toValue hfield⟩ (same_toRecord hrest)

end

/-! ## The test of agreement -/

theorem sameValue_self {d : Double} (h : d.isFinite = true) : d.sameValue d = true := by
  have hnan : d.isNaN = false := by
    rw [Double.isFinite, bne_iff_ne] at h
    rw [Double.isNaN, beq_eq_false_iff_ne.mpr h, Bool.false_and]
  rw [Double.sameValue, hnan, beq_self_eq_true]
  rfl

mutual

/-- **The test confirms that sound properties are the same.** -/
theorem agrees_of_same : ∀ {p q : Property}, p.Sound → Same p q → p.agrees q = true
  | _, _, _, .null => rfl
  | .flag value, _, _, .flag => by
    rw [agrees]
    exact beq_self_eq_true value
  | .text content, _, _, .text => by
    rw [agrees]
    exact beq_self_eq_true content
  | .number d, _, .number hfinite, .number => by
    rw [agrees]
    exact sameValue_self hfinite
  | .list items, _, .list hitems, .list h => by
    rw [agrees]
    exact agreeItems_of_same hitems h
  | .record fields, .record others, .record hdistinct hfields, .record hnames h => by
    have hlength : fields.length = others.length := by
      simpa only [List.length_map] using hnames.length_eq
    have hfound : ∀ field ∈ fields, ∃ q, others.lookup field.1 = some q ∧ Same field.2 q := by
      intro field hfield
      have hname := h field.1
      rw [(Bag.lookup_eq_some_iff hdistinct).mpr hfield] at hname
      generalize others.lookup field.1 = found at hname ⊢
      cases hname with
      | some hsame => exact ⟨_, rfl, hsame⟩
    rw [agrees, hlength, beq_self_eq_true, Bool.true_and]
    exact agreeFields_of_same hfields hfound

theorem agreeItems_of_same : ∀ {as bs : List Property}, (∀ a ∈ as, a.Sound) →
    List.Forall₂ Same as bs → agreeItems as bs = true
  | [], _, _, .nil => rfl
  | a :: as, _, h, .cons hsame hsames => by
    obtain ⟨ha, has⟩ := List.forall_mem_cons.mp h
    rw [agreeItems, agrees_of_same ha hsame, agreeItems_of_same has hsames]
    rfl

theorem agreeFields_of_same {others : List (String × Property)} :
    ∀ {fields : List (String × Property)}, (∀ field ∈ fields, field.2.Sound) →
      (∀ field ∈ fields, ∃ q, others.lookup field.1 = some q ∧ Same field.2 q) →
        agreeFields fields others = true
  | [], _, _ => by rw [agreeFields]
  | (name, p) :: rest, h, hfound => by
    obtain ⟨hp, hrest⟩ := List.forall_mem_cons.mp h
    obtain ⟨⟨q, hq, hsame⟩, hfound⟩ := List.forall_mem_cons.mp hfound
    rw [agreeFields, hq]
    simp only [agrees_of_same hp hsame, agreeFields_of_same hrest hfound, Bool.and_self]

end

mutual

/-- **What is read is sound.** -/
theorem sound_of_ofTree? {depth : Nat} : ∀ {tree : Tree} {p : Property}, tree.Bounded →
    ofTree? depth tree = some p → p.Sound
  | .null, p, _, h => by
    rw [ofTree?] at h
    exact Option.some.inj h ▸ .null
  | .bool value, p, _, h => by
    rw [ofTree?] at h
    exact Option.some.inj h ▸ .flag
  | .number l, p, .number hl, h => by
    rw [ofTree?] at h
    obtain ⟨n, hn, rfl⟩ := Option.map_eq_some_iff.mp h
    exact .number (Literal.isFinite_of_number? hl hn)
  | .text content, p, _, h => by
    rw [ofTree?] at h
    obtain ⟨text, -, rfl⟩ := Option.map_eq_some_iff.mp h
    exact .text
  | .list items, p, .list hitems, h => by
    cases depth with
    | zero => simp [ofTree?] at h
    | succ depth =>
      rw [ofTree?] at h
      obtain ⟨ps, hps, rfl⟩ := Option.map_eq_some_iff.mp h
      exact .list (sound_of_ofItems? hitems hps)
  | .record fields, p, .record hfields, h => by
    cases depth with
    | zero => simp [ofTree?] at h
    | succ depth =>
      rw [ofTree?] at h
      obtain ⟨ps, hps, rfl⟩ := Option.map_eq_some_iff.mp h
      exact .record (Bag.ofList ps).distinct fun field hm =>
        sound_of_ofFields? hfields hps field (Bag.mem_of_mem_ofList hm)

theorem sound_of_ofItems? {depth : Nat} : ∀ {items : List Tree} {ps : List Property},
    (∀ item ∈ items, item.Bounded) → ofItems? depth items = some ps → ∀ p ∈ ps, p.Sound
  | [], ps, _, h => by
    rw [ofItems?] at h
    simp [← Option.some.inj h]
  | item :: rest, ps, hb, h => by
    obtain ⟨hitem, hrest⟩ := List.forall_mem_cons.mp hb
    rw [ofItems?] at h
    split at h
    · rename_i hp hps
      rw [← Option.some.inj h]
      exact List.forall_mem_cons.mpr ⟨sound_of_ofTree? hitem hp, sound_of_ofItems? hrest hps⟩
    · cases h

theorem sound_of_ofFields? {depth : Nat} : ∀ {fields : List (Content × Tree)}
    {ps : List (String × Property)}, (∀ field ∈ fields, field.2.Bounded) →
      ofFields? depth fields = some ps → ∀ field ∈ ps, field.2.Sound
  | [], ps, _, h => by
    rw [ofFields?] at h
    simp [← Option.some.inj h]
  | (name, tree) :: rest, ps, hb, h => by
    obtain ⟨hfield, hrest⟩ := List.forall_mem_cons.mp hb
    unfold ofFields? at h
    split at h
    · rename_i hp hps
      rw [← Option.some.inj h]
      exact List.forall_mem_cons.mpr ⟨sound_of_ofTree? hfield hp, sound_of_ofFields? hrest hps⟩
    · cases h

end

/-! ## Agreement -/

/-- The typed views of the two are the same. -/
def SameViews (p q : Property) : Prop :=
  p.number? = q.number? ∧ p.text? = q.text? ∧ p.flag? = q.flag?

theorem Same.views {p q : Property} (h : Same p q) : SameViews p q := by
  cases h <;> exact ⟨rfl, rfl, rfl⟩

/-- **The two ways to read a property agree**, at every place of a document and for every text, and
so do the views of what is read and the test that runs. **What has become a JSON value is read as
the property that it was.** -/
theorem readings_agree :
    (∀ (depth : Nat) (tree : Tree), Option.Rel (fun p v => Same p (ofValue v)) (ofTree? depth tree)
      (Value.ofTree? depth tree)) ∧
    (∀ text : List Char, Option.Rel
      (fun p v => Same p (ofValue v) ∧ SameViews p (ofValue v) ∧ p.agrees (ofValue v) = true)
      ((Tree.parse? text).bind (ofTree? Tree.nestingLimit)) (Value.parse? text)) ∧
    ∀ p : Property, p.Sound → Same p (ofValue p.toValue) ∧ p.agrees (ofValue p.toValue) = true := by
  refine ⟨same_ofTree?, fun text => ?_, fun p hp => ?_⟩
  · rw [Value.parse?]
    cases htree : Tree.parse? text with
    | none => exact .none
    | some tree =>
      have hbounded : tree.Bounded := Tree.bounded_of_parse? htree
      have hrel := same_ofTree? Tree.nestingLimit tree
      rw [Option.bind_some, Option.bind_some]
      cases hp : ofTree? Tree.nestingLimit tree with
      | none =>
        rw [hp] at hrel
        generalize Value.ofTree? Tree.nestingLimit tree = v at hrel ⊢
        cases hrel
        exact .none
      | some p =>
        rw [hp] at hrel
        generalize Value.ofTree? Tree.nestingLimit tree = v at hrel ⊢
        cases hrel with
        | some hsame =>
          exact .some ⟨hsame, hsame.views, agrees_of_same (sound_of_ofTree? hbounded hp) hsame⟩
  · have hsame := same_toValue hp
    exact ⟨hsame, agrees_of_same hp hsame⟩

/-- A record that comes back with its fields in another order. -/
theorem readings_agree_unsorted :
    let p := record [("y", number (.ofInt 4)), ("x", list [null, number (.ofInt 8)])]
    p.Sound ∧ Same p (ofValue p.toValue) ∧
      (ofValue p.toValue).toJson.compact = "\x7b\"x\":[null,8.0],\"y\":4.0\x7d" := by
  intro p
  have hlist : (list [null, number (.ofInt 8)]).Sound := by
    refine .list fun item hitem => ?_
    rcases List.mem_pair.mp hitem with rfl | rfl
    · exact .null
    · exact .number (by decide +kernel)
  have hp : p.Sound := by
    refine .record (by decide) fun field hfield => ?_
    rcases List.mem_pair.mp hfield with rfl | rfl
    · exact .number (by decide +kernel)
    · exact hlist
  exact ⟨hp, (readings_agree.2.2 p hp).1, by decide +kernel⟩

end Property

end GuardedUi
