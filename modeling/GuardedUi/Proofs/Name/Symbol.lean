import GuardedUi.Proofs.Name.Words
import Mathlib.Data.List.Chain

/-!
# `Proofs/Name/Symbol` — when a handler keeps its name

A handler that the user owns has to be registered under the name of the user's function. What is
registered is the symbol of that name, in which underscores do nothing but separate: there is one
of them between two runs of letters and digits, and none at the ends. C allows for more, and so not
every name that C allows for is kept:

> **A handler is registered under its own name exactly if the underscores of the name separate**,
> but for one in front of a leading digit. **What is registered for any other name has the same
> letters and digits**, or is the name of the nameless if there are none (`handler_of_identifier`).

So a function `_on_tap` can be defined, and it can be named by a widget, but what gets registered is
`on_tap` (`handler_of_leading_underscore`).
-/

set_option autoImplicit false

namespace GuardedUi.Name

open Guard

/-! ## Underscores -/

/-- Underscores separate: none of them begins or ends the text, and no two are adjacent. -/
structure Separating (text : List Char) : Prop where
  head : text.head? ≠ some '_'
  last : text.getLast? ≠ some '_'
  chain : text.IsChain fun c d => c = '_' → d ≠ '_'

/-- Underscores separate, but for one in front of a leading digit. -/
def Kept (text : List Char) : Prop :=
  Separating text ∨
    ∃ d rest, text = '_' :: d :: rest ∧ d.isDigit = true ∧ Separating (d :: rest)

/-- The name is one that C allows for: letters, digits and underscores, with no digit in front. -/
def IsIdentifier (name : String) : Prop :=
  ∃ c rest, name.toList = c :: rest ∧ (c.isAlpha = true ∨ c = '_') ∧ ∀ d ∈ rest, isIdChar d = true

theorem isNameChar_of_isIdChar {c : Char} (h : isIdChar c = true) (hne : c ≠ '_') :
    isNameChar c = true := by
  simp only [isIdChar, Bool.or_eq_true, beq_iff_eq] at h
  exact h.resolve_right hne

theorem ne_underscore {c : Char} (h : isNameChar c = true) : c ≠ '_' := by
  rintro rfl
  exact absurd h (by decide)

/-- What a name can begin with is no digit. -/
theorem not_isDigit {c : Char} (h : c.isAlpha = true ∨ c = '_') : ¬ c.isDigit = true := by
  intro hd
  have hdigit : c.toNat ≤ 57 := of_decide_eq_true (Bool.and_eq_true_iff.mp hd).2
  have hletter : 65 ≤ c.toNat := by
    rcases h with halpha | rfl
    · rcases Bool.or_eq_true_iff.mp halpha with hupper | hlower
      · have hrange : 65 ≤ c.toNat ∧ c.toNat ≤ 90 := of_decide_eq_true hupper
        exact hrange.1
      · have hlow : 97 ≤ c.toNat := of_decide_eq_true (Bool.and_eq_true_iff.mp hlower).1
        omega
    · decide
  omega

theorem IsIdentifier.isWord {name : String} (h : IsIdentifier name) : IsWord name := by
  obtain ⟨c, rest, hname, hc, hrest⟩ := h
  rw [IsWord, hname]
  refine ⟨List.cons_ne_nil c rest, List.forall_mem_cons.mpr ⟨?_, hrest⟩⟩
  simp only [isIdChar, Char.isAlphanum, Bool.or_eq_true, beq_iff_eq]
  exact hc.imp Or.inl id

/-! ## Underscores that separate -/

theorem IsRun.separating {run : List Char} (h : IsRun run) : Separating run where
  head hc := ne_underscore (h.2 _ (List.mem_of_head? hc)) rfl
  last hc := ne_underscore (h.2 _ (List.mem_of_getLast? hc)) rfl
  chain := by
    have hpairs : run.Pairwise fun c d => c = '_' → d ≠ '_' :=
      List.pairwise_of_forall_mem_list fun _ _ d hd _ => ne_underscore (h.2 d hd)
    exact hpairs.isChain

namespace Separating

variable {front back : List Char}

/-- An underscore between two texts. -/
theorem join (hfront : Separating front) (hne : front ≠ []) (hback : Separating back)
    (hne' : back ≠ []) : Separating (front ++ '_' :: back) where
  head := by
    obtain ⟨c, rest, rfl⟩ := List.exists_cons_of_ne_nil hne
    exact hfront.head
  last := by
    obtain ⟨c, rest, rfl⟩ := List.exists_cons_of_ne_nil hne'
    rw [List.getLast?_append_cons, List.getLast?_cons_cons]
    exact hback.last
  chain := by
    refine List.isChain_split.mpr ⟨?_, ?_⟩
    · refine hfront.chain.append (List.isChain_singleton '_') fun c hc d hd hsame => ?_
      exact absurd (hsame ▸ hc) hfront.last
    · refine hback.chain.cons fun d hd _ hsame => ?_
      exact hback.head (hsame ▸ hd)

/-- An underscore that separates stands between two texts. -/
theorem of_join (h : Separating (front ++ '_' :: back)) :
    front ≠ [] ∧ back ≠ [] ∧ Separating back := by
  have hback : back ≠ [] := by
    rintro rfl
    exact h.last List.getLast?_concat
  have hchain := (List.isChain_split.mp h.chain).2
  refine ⟨?_, hback, ?_, ?_, hchain.tail⟩
  · rintro rfl
    exact h.head rfl
  · intro hhead
    exact hchain.rel_head? hhead rfl rfl
  · obtain ⟨c, rest, rfl⟩ := List.exists_cons_of_ne_nil hback
    have hlast := h.last
    rwa [List.getLast?_append_cons, List.getLast?_cons_cons] at hlast

end Separating

/-! ## Runs joined -/

theorem separating_joinRuns {runs : List (List Char)} (h : ∀ run ∈ runs, IsRun run) :
    Separating (joinRuns runs) := by
  induction runs with
  | nil => exact ⟨by simp [joinRuns], by simp [joinRuns], .nil⟩
  | cons run rest ih =>
    obtain ⟨hrun, hrest⟩ := List.forall_mem_cons.mp h
    cases rest with
    | nil => exact hrun.separating
    | cons next rest =>
      rw [joinRuns_cons run (List.cons_ne_nil next rest)]
      exact hrun.separating.join hrun.1 (ih hrest)
        (isName_joinRuns (List.cons_ne_nil next rest) hrest).1

/-- **A text is its runs joined, if underscores separate.** By induction on the text, where the run
that is begun belongs to it. -/
theorem joinRuns_runsAfter {rev text : List Char} (hchars : ∀ c ∈ text, isIdChar c = true)
    (h : Separating (rev.reverse ++ text)) :
    joinRuns (runsAfter rev text) = rev.reverse ++ text := by
  induction text generalizing rev with
  | nil => cases rev <;> simp [runsAfter, joinRuns]
  | cons c rest ih =>
    obtain ⟨hc, hrest⟩ := List.forall_mem_cons.mp hchars
    rw [runsAfter]
    by_cases hunder : c = '_'
    · subst hunder
      obtain ⟨hrev, hne, hback⟩ := h.of_join
      have hrest : joinRuns (runsAfter [] rest) = rest := ih hrest hback
      have hruns : runsAfter [] rest ≠ [] := by
        intro hnil
        rw [hnil] at hrest
        exact hne hrest.symm
      rw [if_neg (by decide), if_neg (by simpa using hrev), joinRuns_cons _ hruns, hrest]
    · have happend : rev.reverse ++ c :: rest = (c :: rev).reverse ++ rest := by
        rw [List.reverse_cons, List.append_assoc, List.singleton_append]
      rw [if_pos (isNameChar_of_isIdChar hc hunder), happend]
      exact ih hrest (happend ▸ h)

/-! ## Symbols -/

theorem collapse_eq {text : List Char} (h : runs text ≠ []) :
    collapse text = joinRuns (runs text) := by
  obtain ⟨first, rest, hruns⟩ := List.exists_cons_of_ne_nil h
  rw [collapse, hruns]

theorem collapse_eq_nameless {text : List Char} (h : runs text = []) :
    collapse text = nameless := by
  rw [collapse, h]

theorem separating_collapse (text : List Char) : Separating (collapse text) := by
  by_cases h : runs text = []
  · rw [collapse_eq_nameless h]
    exact IsRun.separating ⟨by decide, List.all_eq_true.mp (by decide)⟩
  · rw [collapse_eq h]
    exact separating_joinRuns fun _ => isRun_of_mem_runs

theorem collapse_eq_self {text : List Char} (hname : IsName text) (h : Separating text) :
    collapse text = text := by
  have hjoin : joinRuns (runsAfter [] text) = List.reverse [] ++ text :=
    joinRuns_runsAfter hname.2 h
  have hne : runs text ≠ [] := by
    intro hruns
    rw [show runsAfter [] text = [] from hruns] at hjoin
    exact hname.1 hjoin.symm
  rw [collapse_eq hne, runs, hjoin, List.reverse_nil, List.nil_append]

theorem escapeDigit_cases (text : List Char) :
    escapeDigit text = text ∨
      ∃ d rest, text = d :: rest ∧ d.isDigit = true ∧ escapeDigit text = '_' :: text := by
  cases text with
  | nil => exact .inl rfl
  | cons d rest =>
    by_cases hd : d.isDigit = true
    · exact .inr ⟨d, rest, rfl, hd, if_pos hd⟩
    · exact .inl (if_neg hd)

/-- An underscore that begins a text is in no run. -/
theorem collapse_underscore (text : List Char) : collapse ('_' :: text) = collapse text :=
  rfl

theorem kept_symbol (text : String) : Kept (symbol text).toList := by
  have hsep := separating_collapse text.toList
  rw [symbol, String.toList_ofList]
  rcases escapeDigit_cases (collapse text.toList) with h | ⟨d, rest, hcollapse, hd, h⟩
  · rw [h]
    exact .inl hsep
  · rw [h, hcollapse]
    exact .inr ⟨d, rest, rfl, hd, hcollapse ▸ hsep⟩

/-- **A name that C allows for is its own symbol exactly if its underscores separate.** -/
theorem symbol_eq_self_iff {name : String} (h : IsIdentifier name) :
    symbol name = name ↔ Kept name.toList := by
  have hchars : ∀ c ∈ name.toList, isIdChar c = true := h.isWord.2
  constructor
  · intro hsame
    exact hsame ▸ kept_symbol name
  · intro hkept
    apply String.toList_injective
    rw [symbol, String.toList_ofList]
    rcases hkept with hsep | ⟨d, rest, hname, hd, hsep⟩
    · rw [collapse_eq_self h.isWord hsep]
      obtain ⟨c, rest, hname, hc, -⟩ := h
      rw [hname]
      exact if_neg (not_isDigit hc)
    · rw [hname] at hchars ⊢
      have hrest : IsName (d :: rest) :=
        ⟨List.cons_ne_nil d rest, (List.forall_mem_cons.mp hchars).2⟩
      rw [collapse_underscore, collapse_eq_self hrest hsep]
      exact if_pos hd

/-! ## Letters and digits -/

theorem flatten_runsAfter (rev text : List Char) :
    (runsAfter rev text).flatten = rev.reverse ++ text.filter isNameChar := by
  induction text generalizing rev with
  | nil => cases rev <;> simp [runsAfter]
  | cons c rest ih =>
    rw [runsAfter]
    by_cases hc : isNameChar c = true
    · rw [if_pos hc, ih, List.filter_cons_of_pos hc, List.reverse_cons, List.append_assoc,
        List.singleton_append]
    · rw [if_neg hc, List.filter_cons_of_neg hc]
      by_cases he : rev.isEmpty = true
      · rw [if_pos he, ih, List.isEmpty_iff.mp he]
      · rw [if_neg he, List.flatten_cons, ih, List.reverse_nil, List.nil_append]

theorem filter_joinRuns {runs : List (List Char)} (h : ∀ run ∈ runs, IsRun run) :
    (joinRuns runs).filter isNameChar = runs.flatten := by
  induction runs with
  | nil => rfl
  | cons run rest ih =>
    obtain ⟨hrun, hrest⟩ := List.forall_mem_cons.mp h
    have hkeep : run.filter isNameChar = run := List.filter_eq_self.mpr hrun.2
    cases rest with
    | nil => rw [joinRuns, hkeep, List.flatten_singleton]
    | cons next rest =>
      rw [joinRuns_cons run (List.cons_ne_nil next rest), List.filter_append, hkeep,
        List.filter_cons_of_neg (by decide), ih hrest]
      rfl

theorem flatten_runs (text : List Char) : (runs text).flatten = text.filter isNameChar :=
  flatten_runsAfter [] text

theorem runs_eq_nil_iff {text : List Char} :
    runs text = [] ↔ ¬ text.any isNameChar = true := by
  have hfilter : text.any isNameChar = true ↔ (runs text).flatten ≠ [] := by
    rw [flatten_runs, List.any_eq_true, Ne, List.filter_eq_nil_iff]
    simp only [not_forall, not_not, exists_prop]
  rw [hfilter, not_not, List.flatten_eq_nil_iff]
  constructor
  · intro h run hrun
    rw [h] at hrun
    exact absurd hrun List.not_mem_nil
  · intro h
    refine List.eq_nil_iff_forall_not_mem.mpr fun run hrun => ?_
    exact (isRun_of_mem_runs hrun).1 (h run hrun)

theorem filter_escapeDigit (text : List Char) :
    (escapeDigit text).filter isNameChar = text.filter isNameChar := by
  rcases escapeDigit_cases text with h | ⟨d, rest, -, -, h⟩
  · rw [h]
  · rw [h, List.filter_cons_of_neg (by decide)]

/-- The letters and digits of a text are those of its symbol. -/
theorem filter_symbol (text : String) : (symbol text).toList.filter isNameChar =
    if text.toList.any isNameChar then text.toList.filter isNameChar else nameless := by
  rw [symbol, String.toList_ofList, filter_escapeDigit]
  by_cases hruns : runs text.toList = []
  · rw [collapse_eq_nameless hruns, if_neg (runs_eq_nil_iff.mp hruns)]
    rfl
  · have hany : text.toList.any isNameChar = true := by
      by_contra hnone
      exact hruns (runs_eq_nil_iff.mpr hnone)
    rw [collapse_eq hruns, filter_joinRuns fun _ => isRun_of_mem_runs, flatten_runs, if_pos hany]

end GuardedUi.Name

namespace GuardedUi

open Name

/-! ## Handlers -/

/-- A word is bound as it is written. -/
theorem ofValue_word {name : String} (h : IsWord name) :
    Binding.ofValue (.text name) = .handler name := by
  have hblank : ∀ c ∈ name.toList, Text.isBlank c = false := fun c hc =>
    Guard.not_isBlank_of_isIdChar (h.2 c hc)
  obtain ⟨c, rest, hname⟩ := List.exists_cons_of_ne_nil h.1
  have hfirst : ¬ Text.allBlank name.toList = true := by
    rw [hname] at hblank ⊢
    rw [Text.allBlank, List.all_cons, hblank c List.mem_cons_self]
    exact Bool.false_ne_true
  rw [Binding.ofValue, if_neg hfirst, Text.trimmed, Text.trim_eq_self hblank, String.ofList_toList]

/-- **A handler is registered under its own name exactly if the underscores of the name separate.**
For any name, what is registered has the same letters and digits. -/
theorem handler_of_identifier (w : Widget) (identifier : String) {event : Event}
    (he : event ∈ Event.table) {name : String} (hname : IsIdentifier name)
    (hw : w.event event.property = Binding.ofValue (.text name)) :
    ∃ r ∈ Registration.ofWidget w identifier,
      Registration.ofEvent? w identifier event = some r ∧ r.code = event.code ∧ r.owner = .user ∧
      (r.handler = name ↔ Kept name.toList) ∧ Kept r.handler.toList ∧
      r.handler.toList.filter isNameChar =
        if name.toList.any isNameChar then name.toList.filter isNameChar else nameless := by
  have hof : Registration.ofEvent? w identifier event =
      some ⟨event.code, symbol name, .user⟩ := by
    rw [Registration.ofEvent?, hw, ofValue_word hname.isWord]
  exact ⟨⟨event.code, symbol name, .user⟩, List.mem_filterMap.mpr ⟨event, he, hof⟩, hof, rfl, rfl,
    symbol_eq_self_iff hname, kept_symbol name, filter_symbol name⟩

/-- A button with a handler of the given name. -/
def handledButton (name : String) : Widget :=
  (Widget.new "button").withEvent "onClick" (Binding.ofValue (.text name))

/-- One underscore may begin a name: the one in front of a digit. -/
theorem handler_of_leading_digit :
    ∃ r ∈ Registration.ofWidget (handledButton "_3d_onTap") "ok", r.handler = "_3d_onTap" := by
  have hevent : ⟨"onClick", "LV_EVENT_CLICKED"⟩ ∈ Event.table := List.mem_cons_self
  have hname : IsIdentifier "_3d_onTap" := ⟨'_', "3d_onTap".toList, rfl, .inr rfl,
    List.all_eq_true.mp (by decide)⟩
  have hkept : Kept "_3d_onTap".toList :=
    .inr ⟨'3', "d_onTap".toList, rfl, rfl, by decide, by decide, by decide⟩
  obtain ⟨r, hr, -, -, -, hiff, -⟩ :=
    handler_of_identifier (handledButton "_3d_onTap") "ok" hevent hname rfl
  exact ⟨r, hr, hiff.mpr hkept⟩

/-- Any other underscore that begins a name is lost. -/
theorem handler_of_leading_underscore :
    IsIdentifier "_on_tap" ∧
      (handledButton "_on_tap").event "onClick" = Binding.ofValue (.text "_on_tap") ∧
      Registration.ofWidget (handledButton "_on_tap") "ok" =
        [⟨"LV_EVENT_CLICKED", "on_tap", .user⟩] ∧
      ¬ ∃ r ∈ Registration.ofWidget (handledButton "_on_tap") "ok", r.handler = "_on_tap" := by
  have hregistered : Registration.ofWidget (handledButton "_on_tap") "ok" =
      [⟨"LV_EVENT_CLICKED", "on_tap", .user⟩] := by decide +kernel
  have hname : IsIdentifier "_on_tap" :=
    ⟨'_', "on_tap".toList, rfl, .inr rfl, List.all_eq_true.mp (by decide)⟩
  refine ⟨hname, rfl, hregistered, ?_⟩
  rw [hregistered]
  rintro ⟨r, hr, hname⟩
  rw [List.mem_singleton.mp hr] at hname
  exact absurd hname (by decide)

end GuardedUi
