import GuardedUi.Proofs.Json.Literal
import GuardedUi.Proofs.Json.Sorting

/-!
# `Proofs/Json/Reading` — what was read from a text

A tree can be made of any literals, one that was read only of those that a text can have. That is
carried through the machine that reads trees, one token after the other:

> **A tree that was read has no literal beyond a word** (`bounded_of_parse?`), **and the values in it
> have finite numbers and sorted records, as deep as was allowed** (`wellFormed_of_ofTree?`).

What counts as a good number is left open in `Value.WellFormed`. Here it is one whose double is
finite.
-/

set_option autoImplicit false

namespace GuardedUi.Json

/-! ## Trees -/

namespace Tree

/-- The significands of all literals in the tree fit a word. -/
inductive Bounded : Tree → Prop where
  | null : Bounded .null
  | bool {value : Bool} : Bounded (.bool value)
  | number {l : Literal} (h : l.significand ≤ Literal.greatestWord) : Bounded (.number l)
  | text {content : Content} : Bounded (.text content)
  | list {items : List Tree} (h : ∀ item ∈ items, Bounded item) : Bounded (.list items)
  | record {fields : List (Content × Tree)} (h : ∀ field ∈ fields, Bounded field.2) :
    Bounded (.record fields)

/-- What has been read of the list or record is bounded. -/
def Frame.Bounded : Frame → Prop
  | .list rev => ∀ item ∈ rev, item.Bounded
  | .record rev _ => ∀ field ∈ rev, field.2.Bounded

/-- What the machine holds while it waits is bounded. -/
def Phase.Bounded : Phase → Prop
  | .value _ => True
  | .name rev _ => ∀ field ∈ rev, field.2.Bounded
  | .colon rev _ => ∀ field ∈ rev, field.2.Bounded
  | .after tree => tree.Bounded

theorem bounded_of_ofWord? {word : List Char} {tree : Tree} (h : ofWord? word = some tree) :
    tree.Bounded := by
  unfold ofWord? at h
  split at h
  · exact Option.some.inj h ▸ .null
  · split at h
    · exact Option.some.inj h ▸ .bool
    · split at h
      · exact Option.some.inj h ▸ .bool
      · obtain ⟨l, hl, rfl⟩ := Option.map_eq_some_iff.mp h
        exact .number (Literal.significand_le hl)

/-- A token keeps all that the machine holds bounded. -/
theorem bounded_step {stack stack' : List Frame} {phase phase' : Phase} {token : Token}
    (hstack : ∀ frame ∈ stack, frame.Bounded) (hphase : phase.Bounded)
    (h : step stack phase token = some (stack', phase')) :
    (∀ frame ∈ stack', frame.Bounded) ∧ phase'.Bounded := by
  have hframe : ∀ {frame : Frame} {stack : List Frame}, frame.Bounded →
      (∀ other ∈ stack, other.Bounded) → ∀ other ∈ frame :: stack, other.Bounded :=
    fun hf hs => List.forall_mem_cons.mpr ⟨hf, hs⟩
  have hitems : ∀ {value : Tree} {rev : List Tree}, value.Bounded →
      (∀ item ∈ rev, item.Bounded) → ∀ item ∈ value :: rev, item.Bounded :=
    fun hv hr => List.forall_mem_cons.mpr ⟨hv, hr⟩
  have hfields : ∀ {name : Content} {value : Tree} {rev : List (Content × Tree)}, value.Bounded →
      (∀ field ∈ rev, field.2.Bounded) → ∀ field ∈ (name, value) :: rev, field.2.Bounded :=
    fun hv hr => List.forall_mem_cons.mpr ⟨hv, hr⟩
  unfold step at h
  split at h
  · -- A text.
    obtain ⟨rfl, rfl⟩ := Prod.mk.inj (Option.some.inj h)
    exact ⟨hstack, Tree.Bounded.text⟩
  · -- A word.
    obtain ⟨value, hvalue, heq⟩ := Option.map_eq_some_iff.mp h
    obtain ⟨rfl, rfl⟩ := Prod.mk.inj heq
    exact ⟨hstack, bounded_of_ofWord? hvalue⟩
  · -- A list opens.
    obtain ⟨rfl, rfl⟩ := Prod.mk.inj (Option.some.inj h)
    exact ⟨hframe (by simp [Frame.Bounded]) hstack, trivial⟩
  · -- A record opens.
    obtain ⟨rfl, rfl⟩ := Prod.mk.inj (Option.some.inj h)
    exact ⟨hstack, by simp [Phase.Bounded]⟩
  · -- An empty list ends.
    obtain ⟨rfl, rfl⟩ := Prod.mk.inj (Option.some.inj h)
    exact ⟨(List.forall_mem_cons.mp hstack).2, Tree.Bounded.list (by simp)⟩
  · -- A name.
    obtain ⟨rfl, rfl⟩ := Prod.mk.inj (Option.some.inj h)
    exact ⟨hstack, hphase⟩
  · -- An empty record ends.
    obtain ⟨rfl, rfl⟩ := Prod.mk.inj (Option.some.inj h)
    exact ⟨hstack, Tree.Bounded.record (by simp)⟩
  · -- A colon.
    obtain ⟨rfl, rfl⟩ := Prod.mk.inj (Option.some.inj h)
    exact ⟨hframe hphase hstack, trivial⟩
  · -- An item of a list, with others to come.
    obtain ⟨rfl, rfl⟩ := Prod.mk.inj (Option.some.inj h)
    obtain ⟨hrev, hstack⟩ := List.forall_mem_cons.mp hstack
    exact ⟨hframe (hitems hphase hrev) hstack, trivial⟩
  · -- The last item of a list.
    obtain ⟨rfl, rfl⟩ := Prod.mk.inj (Option.some.inj h)
    obtain ⟨hrev, hstack⟩ := List.forall_mem_cons.mp hstack
    exact ⟨hstack, Tree.Bounded.list fun item hm =>
      hitems hphase hrev item (List.mem_reverse.mp hm)⟩
  · -- A field of a record, with others to come.
    obtain ⟨rfl, rfl⟩ := Prod.mk.inj (Option.some.inj h)
    obtain ⟨hrev, hstack⟩ := List.forall_mem_cons.mp hstack
    exact ⟨hstack, hfields hphase hrev⟩
  · -- The last field of a record.
    obtain ⟨rfl, rfl⟩ := Prod.mk.inj (Option.some.inj h)
    obtain ⟨hrev, hstack⟩ := List.forall_mem_cons.mp hstack
    exact ⟨hstack, Tree.Bounded.record fun field hm =>
      hfields hphase hrev field (List.mem_reverse.mp hm)⟩
  · cases h

theorem bounded_of_run {tokens : List Token} {stack : List Frame} {phase : Phase} {tree : Tree}
    (hstack : ∀ frame ∈ stack, frame.Bounded) (hphase : phase.Bounded)
    (h : run stack phase tokens = some tree) : tree.Bounded := by
  induction tokens generalizing stack phase with
  | nil =>
    unfold run at h
    split at h
    · obtain rfl := Option.some.inj h
      exact hphase
    · cases h
    · simp at *
  | cons token rest ih =>
    rw [run] at h
    split at h
    · cases h
    · rename_i hstep
      obtain ⟨hstack, hphase⟩ := bounded_step hstack hphase hstep
      exact ih hstack hphase h

/-- **A tree that was read has no literal beyond a word.** -/
theorem bounded_of_parse? {text : List Char} {tree : Tree} (h : parse? text = some tree) :
    tree.Bounded := by
  obtain ⟨tokens, -, htree⟩ := Option.bind_eq_some_iff.mp h
  have hphase : (Phase.value false).Bounded := trivial
  exact bounded_of_run (by simp) hphase htree

/-! ### Fields of a structure -/

theorem bounded_of_field? {fields : List (Content × Tree)} {name : String} {value : Option Tree}
    (hb : ∀ field ∈ fields, field.2.Bounded) (h : field? fields name = some value) :
    ∀ tree ∈ value, tree.Bounded := by
  unfold field? at h
  split at h
  · obtain rfl := Option.some.inj h
    exact fun tree ht => nomatch ht
  · rename_i field hfilter
    have hm : field ∈ fields := List.mem_of_mem_filter (hfilter ▸ List.mem_cons_self)
    intro tree ht
    rw [← Option.some.inj h] at ht
    exact Option.some.inj ht ▸ hb field hm
  · cases h

theorem bounded_of_mapM_field? {fields : List (Content × Tree)} {names : List String}
    {values : List (Option Tree)} (hb : ∀ field ∈ fields, field.2.Bounded)
    (h : names.mapM (field? fields) = some values) :
    ∀ value ∈ values, ∀ tree ∈ value, tree.Bounded := by
  induction names generalizing values with
  | nil =>
    rw [List.mapM_nil] at h
    rw [← Option.some.inj h]
    exact fun value hvalue => absurd hvalue List.not_mem_nil
  | cons name rest ih =>
    rw [List.mapM_cons] at h
    obtain ⟨value, hvalue, h⟩ := Option.bind_eq_some_iff.mp h
    obtain ⟨others, hothers, h⟩ := Option.bind_eq_some_iff.mp h
    rw [← Option.some.inj h]
    exact List.forall_mem_cons.mpr ⟨bounded_of_field? hb hvalue, ih hothers⟩

/-- Whether a structure is a record or a list, its fields are bounded with it. -/
theorem bounded_of_fields? {names : List String} {tree : Tree} {values : List (Option Tree)}
    (hb : tree.Bounded) (h : fields? names tree = some values) :
    ∀ value ∈ values, ∀ field ∈ value, field.Bounded := by
  cases hb with
  | record hfields =>
    rw [fields?] at h
    split at h
    · exact bounded_of_mapM_field? hfields h
    · cases h
  | list hitems =>
    rw [fields?] at h
    split at h
    · rw [← Option.some.inj h]
      refine List.forall_mem_append.mpr ⟨fun value hvalue field hfield => ?_,
        fun value hvalue field hfield => ?_⟩
      · obtain ⟨item, hitem, rfl⟩ := List.mem_map.mp hvalue
        exact Option.some.inj hfield ▸ hitems item hitem
      · rw [List.eq_of_mem_replicate hvalue] at hfield
        nomatch hfield
    · cases h
  | _ => cases h

end Tree

/-! ## Values -/

namespace Value

/-- The value is nested at most `depth` deep, its records are in order and its numbers are `ok`. -/
inductive WellFormed (ok : Number → Prop) : Nat → Value → Prop where
  | null {depth : Nat} : WellFormed ok depth .null
  | bool {depth : Nat} {value : Bool} : WellFormed ok depth (.bool value)
  | number {depth : Nat} {n : Number} (h : ok n) : WellFormed ok depth (.number n)
  | text {depth : Nat} {content : String} : WellFormed ok depth (.text content)
  | list {depth : Nat} {items : List Value} (h : ∀ item ∈ items, WellFormed ok depth item) :
    WellFormed ok (depth + 1) (.list items)
  | record {depth : Nat} {fields : List (String × Value)} (hsorted : Sorted fields)
    (h : ∀ field ∈ fields, WellFormed ok depth field.2) : WellFormed ok (depth + 1) (.record fields)

/-- A value as it is read: its numbers are finite. -/
def Readable (depth : Nat) (v : Value) : Prop :=
  v.WellFormed (fun n => n.toDouble.isFinite = true) depth

mutual

/-- **What is read is finite and in order.** -/
theorem readable_of_ofTree? {depth : Nat} : ∀ {tree : Tree} {v : Value}, tree.Bounded →
    ofTree? depth tree = some v → v.Readable depth
  | .null, v, _, h => by
    rw [ofTree?] at h
    exact Option.some.inj h ▸ .null
  | .bool value, v, _, h => by
    rw [ofTree?] at h
    exact Option.some.inj h ▸ .bool
  | .number l, v, .number hl, h => by
    rw [ofTree?] at h
    obtain ⟨n, hn, rfl⟩ := Option.map_eq_some_iff.mp h
    exact .number (Literal.isFinite_of_number? hl hn)
  | .text content, v, _, h => by
    rw [ofTree?] at h
    obtain ⟨text, -, rfl⟩ := Option.map_eq_some_iff.mp h
    exact .text
  | .list items, v, .list hitems, h => by
    cases depth with
    | zero => simp [ofTree?] at h
    | succ depth =>
      rw [ofTree?] at h
      obtain ⟨values, hvalues, rfl⟩ := Option.map_eq_some_iff.mp h
      exact .list (readable_of_ofItems? hitems hvalues)
  | .record fields, v, .record hfields, h => by
    cases depth with
    | zero => simp [ofTree?] at h
    | succ depth =>
      rw [ofTree?] at h
      obtain ⟨values, hvalues, rfl⟩ := Option.map_eq_some_iff.mp h
      exact .record (sorted_sortFields values) fun field hm =>
        readable_of_ofFields? hfields hvalues field (mem_of_mem_sortFields hm)

theorem readable_of_ofItems? {depth : Nat} : ∀ {items : List Tree} {values : List Value},
    (∀ item ∈ items, item.Bounded) → ofItems? depth items = some values →
      ∀ v ∈ values, v.Readable depth
  | [], values, _, h => by
    rw [ofItems?] at h
    simp [← Option.some.inj h]
  | item :: rest, values, hb, h => by
    obtain ⟨hitem, hrest⟩ := List.forall_mem_cons.mp hb
    rw [ofItems?] at h
    split at h
    · rename_i hv hvs
      rw [← Option.some.inj h]
      exact List.forall_mem_cons.mpr
        ⟨readable_of_ofTree? hitem hv, readable_of_ofItems? hrest hvs⟩
    · cases h

theorem readable_of_ofFields? {depth : Nat} : ∀ {fields : List (Content × Tree)}
    {values : List (String × Value)}, (∀ field ∈ fields, field.2.Bounded) →
      ofFields? depth fields = some values → ∀ field ∈ values, field.2.Readable depth
  | [], values, _, h => by
    rw [ofFields?] at h
    simp [← Option.some.inj h]
  | (name, tree) :: rest, values, hb, h => by
    obtain ⟨hfield, hrest⟩ := List.forall_mem_cons.mp hb
    unfold ofFields? at h
    split at h
    · rename_i hv hvs
      rw [← Option.some.inj h]
      exact List.forall_mem_cons.mpr
        ⟨readable_of_ofTree? hfield hv, readable_of_ofFields? hrest hvs⟩
    · cases h

end

end Value

end GuardedUi.Json
