import GuardedUi.Event
import GuardedUi.Name.Assignment
import GuardedUi.Proofs.Guard.Grammar

/-!
# `Proofs/Name/Words` — what generated names are made of

Ids, types, styles and handlers are arbitrary texts, and all of them get into generated documents
through names. So what the documents can contain is decided here:

> **Every name is a word of ASCII letters, digits and underscores** (`isWord_identifier`,
> `isWord_symbol`, `isWord_ownName`, `isWord_handler`).

That is what the names of regions are made of, so every stub can have a region of its own name.
-/

set_option autoImplicit false

namespace GuardedUi

open Guard

/-- The text is a word: ASCII letters, digits and underscores, at least one. -/
def IsWord (text : String) : Prop :=
  IsName text.toList

theorem isRegionId_iff {id : String} : isRegionId id = true ↔ IsWord id := by
  simp [isRegionId, IsWord, IsName]

namespace IsWord

theorem append {a b : String} (ha : IsWord a) (hb : IsWord b) : IsWord (a ++ b) := by
  refine ⟨by simp [String.toList_append, ha.1], fun c hc => ?_⟩
  rw [String.toList_append] at hc
  rcases List.mem_append.mp hc with hc | hc
  · exact ha.2 c hc
  · exact hb.2 c hc

/-- Two words with an underscore between them. -/
theorem join {a b : String} (ha : IsWord a) (hb : IsWord b) : IsWord (a ++ "_" ++ b) :=
  (ha.append (isRegionId_iff.mp (by decide))).append hb

theorem slash_not_mem {text : String} (h : IsWord text) : '/' ∉ text.toList :=
  fun hm => absurd (h.2 _ hm) (by decide)

end IsWord

theorem isWord_digits (n : Nat) : IsWord (integerNumeral n) := by
  have hneg : ¬ (n : Int) < 0 := by omega
  rw [IsWord, integerNumeral, if_neg hneg, String.empty_append, String.toList_ofList]
  refine ⟨by simp [Decimal.digits], fun c hc => ?_⟩
  have hdigit : c.isDigit = true := Nat.isDigit_of_mem_toDigits (by decide) (by decide) hc
  simp [isIdChar, Char.isAlphanum, hdigit]

namespace Name

/-! ## Names of texts -/

theorem isAlphanum_toLower {c : Char} (h : c.isAlphanum = true) : c.toLower.isAlphanum = true := by
  by_cases hu : c.val ≥ 'A'.val ∧ c.val ≤ 'Z'.val
  · have hlower : c.toLower.val = c.val + ('a'.val - 'A'.val) := by
      show (if h : c.val ≥ 'A'.val ∧ c.val ≤ 'Z'.val then _ else c : Char).val = _
      rw [dif_pos hu]
    have hrange : c.toLower.val ≥ 'a'.val ∧ c.toLower.val ≤ 'z'.val := by
      rw [hlower]
      simp only [ge_iff_le, UInt32.le_iff_toNat_le, UInt32.toNat_add] at hu ⊢
      simp at hu ⊢
      omega
    have hsmall : c.toLower.isLower = true := by
      show (decide _ && decide _) = true
      rw [decide_eq_true hrange.1, decide_eq_true hrange.2]
      rfl
    show ((c.toLower.isUpper || c.toLower.isLower) || c.toLower.isDigit) = true
    rw [hsmall, Bool.or_true, Bool.true_or]
  · have hsame : c.toLower = c := by
      show (if h : c.val ≥ 'A'.val ∧ c.val ≤ 'Z'.val then _ else c : Char) = c
      rw [dif_neg hu]
    rw [hsame]
    exact h

theorem isIdChar_toLower {c : Char} (h : isIdChar c = true) : isIdChar c.toLower = true := by
  simp only [isIdChar, Bool.or_eq_true, beq_iff_eq] at h ⊢
  rcases h with h | rfl
  · exact Or.inl (isAlphanum_toLower h)
  · exact Or.inr rfl

/-- The text is a run: letters and digits, at least one. -/
def IsRun (text : List Char) : Prop :=
  text ≠ [] ∧ ∀ c ∈ text, isNameChar c = true

theorem IsRun.isName {run : List Char} (h : IsRun run) : IsName run := by
  refine ⟨h.1, fun c hc => ?_⟩
  simp only [isIdChar, Bool.or_eq_true]
  exact Or.inl (h.2 c hc)

theorem IsRun.reverse {run : List Char} (h : IsRun run) : IsRun run.reverse :=
  ⟨by simpa using h.1, fun c hc => h.2 c (List.mem_reverse.mp hc)⟩

/-- What is found is a run, if the run that is begun has no other characters. -/
theorem isRun_of_mem_runsAfter (rev text : List Char) (hrev : ∀ c ∈ rev, isNameChar c = true) :
    ∀ run ∈ runsAfter rev text, IsRun run := by
  induction text generalizing rev with
  | nil =>
    cases rev with
    | nil => simp [runsAfter]
    | cons c cs => simpa [runsAfter] using IsRun.reverse ⟨List.cons_ne_nil c cs, hrev⟩
  | cons c rest ih =>
    rw [runsAfter]
    by_cases hc : isNameChar c = true
    · rw [if_pos hc]
      exact ih (c :: rev) (List.forall_mem_cons.mpr ⟨hc, hrev⟩)
    · rw [if_neg hc]
      -- The run that was begun ends here, unless there is none.
      by_cases he : rev.isEmpty = true
      · rw [if_pos he]
        exact ih [] (by simp)
      · rw [if_neg he]
        have hne : rev ≠ [] := by simpa using he
        intro run hm
        rcases List.mem_cons.mp hm with rfl | hm
        · exact IsRun.reverse ⟨hne, hrev⟩
        · exact ih [] (by simp) run hm

theorem isRun_of_mem_runs {text run : List Char} (h : run ∈ runs text) : IsRun run :=
  isRun_of_mem_runsAfter [] text (by simp) run h

theorem joinRuns_cons (run : List Char) {rest : List (List Char)} (h : rest ≠ []) :
    joinRuns (run :: rest) = run ++ '_' :: joinRuns rest := by
  obtain ⟨next, more, rfl⟩ := List.exists_cons_of_ne_nil h
  rfl

theorem isName_joinRuns {runs : List (List Char)} (hne : runs ≠ [])
    (h : ∀ run ∈ runs, IsRun run) : IsName (joinRuns runs) := by
  induction runs with
  | nil => exact absurd rfl hne
  | cons run rest ih =>
    have hrun := (h run List.mem_cons_self).isName
    cases rest with
    | nil => exact hrun
    | cons next rest =>
      have hrest := ih (List.cons_ne_nil next rest) fun r hr => h r (List.mem_cons_of_mem run hr)
      rw [joinRuns_cons run (List.cons_ne_nil next rest)]
      refine ⟨by simp, fun c hc => ?_⟩
      rcases List.mem_append.mp hc with hc | hc
      · exact hrun.2 c hc
      · rcases List.mem_cons.mp hc with rfl | hc
        · decide
        · exact hrest.2 c hc

theorem isName_collapse (text : List Char) : IsName (collapse text) := by
  rw [collapse]
  split
  · exact ⟨by decide, List.all_eq_true.mp (by decide)⟩
  · rename_i first rest heq
    exact isName_joinRuns (List.cons_ne_nil first rest) fun run hr =>
      isRun_of_mem_runs (heq ▸ hr)

theorem isName_escapeDigit {text : List Char} (h : IsName text) : IsName (escapeDigit text) := by
  cases text with
  | nil => exact h
  | cons c rest =>
    rw [escapeDigit]
    split
    · refine ⟨by simp, fun x hx => ?_⟩
      rcases List.mem_cons.mp hx with rfl | hx
      · decide
      · exact h.2 x hx
    · exact h

theorem isWord_identifier (text : String) : IsWord (identifier text) := by
  rw [IsWord, identifier, String.toList_ofList]
  obtain ⟨hne, hchars⟩ := isName_collapse text.toList
  refine isName_escapeDigit ⟨by simpa using hne, fun c hc => ?_⟩
  obtain ⟨d, hd, rfl⟩ := List.mem_map.mp hc
  exact isIdChar_toLower (hchars d hd)

theorem isWord_symbol (text : String) : IsWord (symbol text) := by
  rw [IsWord, symbol, String.toList_ofList]
  exact isName_escapeDigit (isName_collapse text.toList)

theorem isWord_styleVariable (id : String) : IsWord (styleVariable id) :=
  (isRegionId_iff.mp (by decide)).append (isWord_identifier id)

theorem isWord_widgetVariable {identifier : String} (h : IsWord identifier) :
    IsWord (widgetVariable identifier) :=
  (isRegionId_iff.mp (by decide)).append h

/-! ## Names of widgets -/

theorem isWord_rootPath : IsWord rootPath :=
  isRegionId_iff.mp (by decide)

theorem isWord_childPath {path : String} (h : IsWord path) (index : Nat) :
    IsWord (childPath path index) :=
  h.join (isWord_digits index)

theorem isWord_ownName {path : String} (type : String) (h : IsWord path) :
    IsWord (ownName type path) :=
  (isWord_identifier type).join h

theorem isWord_freeSuffix? {taken : Taken} {base name : String} (hb : IsWord base) {fuel n : Nat}
    (h : freeSuffix? taken base fuel n = some name) : IsWord name := by
  induction fuel generalizing n with
  | zero => simp [freeSuffix?] at h
  | succ fuel ih =>
    rw [freeSuffix?] at h
    split at h
    · exact ih h
    · exact Option.some.inj h ▸ hb.join (isWord_digits n)

theorem isWord_resolve (taken : Taken) {base : String} (hb : IsWord base) :
    IsWord (resolve taken base).1 := by
  rw [resolve]
  split
  · cases hf : freeSuffix? taken base (taken.size + 1) 1 with
    | none => exact hb
    | some name => exact isWord_freeSuffix? hb hf
  · exact hb

end Name

/-! ## Names of handlers -/

theorem isWord_nameSuffix : ∀ event ∈ Event.table, IsWord (Event.nameSuffix event.property) := by
  intro event he
  rw [← isRegionId_iff]
  revert event
  decide

theorem isWord_stubName {identifier : String} (h : IsWord identifier) {event : Event}
    (he : event ∈ Event.table) : IsWord (Event.stubName identifier event.property) :=
  (Name.isWord_widgetVariable h).join (isWord_nameSuffix event he)

theorem isWord_handler {w : Widget} {identifier : String} (h : IsWord identifier)
    {r : Registration} (hr : r ∈ Registration.ofWidget w identifier) : IsWord r.handler := by
  obtain ⟨event, he, hof⟩ := List.mem_filterMap.mp hr
  rw [Registration.ofEvent?] at hof
  split at hof
  · obtain rfl := Option.some.inj hof
    exact Name.isWord_symbol _
  · obtain rfl := Option.some.inj hof
    exact isWord_stubName h he
  · exact absurd hof (by simp)

/-- The code of a registration is that of an event of the table. -/
theorem exists_code {w : Widget} {identifier : String} {r : Registration}
    (hr : r ∈ Registration.ofWidget w identifier) : ∃ event ∈ Event.table, r.code = event.code := by
  obtain ⟨event, he, hof⟩ := List.mem_filterMap.mp hr
  rw [Registration.ofEvent?] at hof
  split at hof
  · obtain rfl := Option.some.inj hof
    exact ⟨event, he, rfl⟩
  · obtain rfl := Option.some.inj hof
    exact ⟨event, he, rfl⟩
  · exact absurd hof (by simp)

theorem isWord_code {w : Widget} {identifier : String} {r : Registration}
    (hr : r ∈ Registration.ofWidget w identifier) : IsWord r.code := by
  have hcodes : ∀ event ∈ Event.table, IsWord event.code := by
    intro event he
    rw [← isRegionId_iff]
    revert event
    decide
  obtain ⟨event, he, hcode⟩ := exists_code hr
  exact hcode ▸ hcodes event he

end GuardedUi
