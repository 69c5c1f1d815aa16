import GuardedUi.Model.Binding
import GuardedUi.Model.Property
import GuardedUi.Proofs.Json.Writing

/-!
# `Proofs/Model/Property` — what a widget says, written and read again

Property values and bindings of a widget come out of JSON values and go into JSON values. On the way
in a value loses what is of no account: whether a number was an integer, the blanks around the name
of a handler, the fields of a record that asks for a stub. What is left is in a form that is kept:

> **A property value that was read is the same when it is written and read again**, as far as its
> numbers are read back (`Property.kept_ofValue`), **and so is a binding** (`Binding.kept_ofValue`).
-/

set_option autoImplicit false

namespace GuardedUi

open Json

/-- The numeral of the double is read as the double. -/
def Double.ReadsBack (d : Double) : Prop :=
  (Number.double d).ReadsBack

instance (d : Double) : Decidable d.ReadsBack :=
  inferInstanceAs (Decidable (Number.double d).ReadsBack)

/-! ## Property values -/

namespace Property

mutual

/-- The numbers of a property value, in order. -/
def numbers : Property → List Double
  | .number d => [d]
  | .list items => numbersOfItems items
  | .record fields => numbersOfFields fields
  | _ => []

def numbersOfItems : List Property → List Double
  | [] => []
  | item :: rest => numbers item ++ numbersOfItems rest

def numbersOfFields : List (String × Property) → List Double
  | [] => []
  | (_, value) :: rest => numbers value ++ numbersOfFields rest

end

/-- The JSON value that is written comes back, and means the property value again. -/
structure Kept (depth : Nat) (p : Property) : Prop where
  faithful : p.toValue.Faithful depth
  same : ofValue p.toValue = p

theorem map_fst_toRecord : ∀ fields : List (String × Property),
    (toRecord fields).map Prod.fst = fields.map Prod.fst
  | [] => rfl
  | (name, value) :: rest => by
    rw [toRecord, List.map_cons, List.map_cons, map_fst_toRecord rest]

theorem map_fst_ofRecord : ∀ fields : List (String × Value),
    (ofRecord fields).map Prod.fst = fields.map Prod.fst
  | [] => rfl
  | (name, value) :: rest => by
    rw [ofRecord, List.map_cons, List.map_cons, map_fst_ofRecord rest]

theorem sorted_toRecord_ofRecord {fields : List (String × Value)} (h : Sorted fields) :
    Sorted (toRecord (ofRecord fields)) := by
  rw [sorted_iff_names, map_fst_toRecord, map_fst_ofRecord]
  exact sorted_iff_names.mp h

mutual

/-- **A property value that was read is kept.** -/
theorem kept_ofValue {depth : Nat} : ∀ {v : Value}, v.Readable depth →
    (∀ d ∈ (ofValue v).numbers, d.isFinite = true → d.ReadsBack) → (ofValue v).Kept depth
  | .null, _, _ => ⟨.null, rfl⟩
  | .bool _, _, _ => ⟨.bool, rfl⟩
  | .text _, _, _ => ⟨.text, rfl⟩
  | .number n, .number hfinite, hnumbers => by
    have hback : n.toDouble.ReadsBack := hnumbers n.toDouble List.mem_cons_self hfinite
    have hvalue : (ofValue (.number n)).toValue = .number (.double n.toDouble) := by
      rw [ofValue, toValue, if_pos hfinite]
    constructor
    · rw [hvalue]
      exact .number hback
    · rw [hvalue]
      rfl
  | .list items, .list hitems, hnumbers => by
    obtain ⟨hfaithful, hsame⟩ := kept_ofValues hitems hnumbers
    constructor
    · rw [ofValue, toValue]
      exact .list hfaithful
    · rw [ofValue, toValue, ofValue, hsame]
  | .record fields, .record hsorted hfields, hnumbers => by
    obtain ⟨hfaithful, hsame⟩ := kept_ofRecord hfields hnumbers
    -- The fields are in order already, since their names are those of the value.
    have hsorted := sorted_toRecord_ofRecord hsorted
    constructor
    · rw [ofValue, toValue, sortFields_eq_self hsorted]
      exact .record hsorted hfaithful
    · rw [ofValue, toValue, sortFields_eq_self hsorted, ofValue, hsame]

theorem kept_ofValues {depth : Nat} : ∀ {items : List Value},
    (∀ item ∈ items, item.Readable depth) →
    (∀ d ∈ numbersOfItems (ofValues items), d.isFinite = true → d.ReadsBack) →
      (∀ item ∈ toValues (ofValues items), item.Faithful depth) ∧
        ofValues (toValues (ofValues items)) = ofValues items
  | [], _, _ => ⟨by simp [ofValues, toValues], rfl⟩
  | item :: rest, h, hnumbers => by
    obtain ⟨hitem, hrest⟩ := List.forall_mem_cons.mp h
    rw [ofValues, numbersOfItems] at hnumbers
    obtain ⟨hfirst, hothers⟩ := List.forall_mem_append.mp hnumbers
    obtain ⟨hfaithful, hsame⟩ := kept_ofValue hitem hfirst
    obtain ⟨hfaithfuls, hsames⟩ := kept_ofValues hrest hothers
    constructor
    · rw [ofValues, toValues]
      exact List.forall_mem_cons.mpr ⟨hfaithful, hfaithfuls⟩
    · rw [ofValues, toValues, ofValues, hsame, hsames]

theorem kept_ofRecord {depth : Nat} : ∀ {fields : List (String × Value)},
    (∀ field ∈ fields, field.2.Readable depth) →
    (∀ d ∈ numbersOfFields (ofRecord fields), d.isFinite = true → d.ReadsBack) →
      (∀ field ∈ toRecord (ofRecord fields), field.2.Faithful depth) ∧
        ofRecord (toRecord (ofRecord fields)) = ofRecord fields
  | [], _, _ => ⟨by simp [ofRecord, toRecord], rfl⟩
  | (name, value) :: rest, h, hnumbers => by
    obtain ⟨hfield, hrest⟩ := List.forall_mem_cons.mp h
    rw [ofRecord, numbersOfFields] at hnumbers
    obtain ⟨hfirst, hothers⟩ := List.forall_mem_append.mp hnumbers
    obtain ⟨hfaithful, hsame⟩ := kept_ofValue hfield hfirst
    obtain ⟨hfaithfuls, hsames⟩ := kept_ofRecord hrest hothers
    constructor
    · rw [ofRecord, toRecord]
      exact List.forall_mem_cons.mpr ⟨hfaithful, hfaithfuls⟩
    · rw [ofRecord, toRecord, ofRecord, hsame, hsames]

end

end Property

/-! ## Bindings -/

namespace Binding

/-- The JSON value that is written, if there is one, means the binding again. -/
def Kept (b : Binding) : Prop :=
  ∀ v ∈ b.toValue?, ofValue v = b

/-- **A binding that was read is kept**: trimming a trimmed name changes nothing. -/
theorem kept_ofValue (v : Value) : (ofValue v).Kept := by
  intro written hw
  unfold ofValue at hw
  split at hw
  · rename_i content
    split at hw
    · cases hw
    · rename_i hblank
      obtain rfl := Option.some.inj hw
      have hname : (Text.trimmed content).toList = Text.trim content.toList := by
        rw [Text.trimmed, String.toList_ofList]
      have htrimmed : Text.trimmed (Text.trimmed content) = Text.trimmed content := by
        rw [Text.trimmed, hname, Text.trim_trim, Text.trimmed]
      have hstill : ¬ Text.allBlank (Text.trimmed content).toList = true := by
        rw [hname]
        exact fun h => hblank (Text.allBlank_trim content.toList h)
      simp only [ofValue, if_neg hblank, if_neg hstill, htrimmed]
  · obtain rfl := Option.some.inj hw
    rfl
  · obtain rfl := Option.some.inj hw
    rfl
  · cases hw

theorem faithful_of_toValue? {b : Binding} {v : Value} (h : b.toValue? = some v) (depth : Nat) :
    v.Faithful depth := by
  cases b with
  | handler name => exact Option.some.inj h ▸ .text
  | stub => exact Option.some.inj h ▸ .bool
  | none => cases h

end Binding

end GuardedUi
