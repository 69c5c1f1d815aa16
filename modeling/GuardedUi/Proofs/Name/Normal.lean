import GuardedUi.Proofs.Name.Symbol
import Mathlib

/-!
# `Proofs/Name/Normal` — which texts have the same name

An identifier is made of the runs of letters and digits of a text, and it is a text itself. So it
can be asked which runs an identifier has, and the answer settles the rest:

> **The runs of an identifier are those of the text in lower case** (`runs_identifier`), with `obj`
> for a text that has none. **So two texts have the same identifier if and only if they have the same
> runs, ignoring case** (`identifier_eq_iff`).

Of the names themselves `IsNormal` says what they look like. **Exactly the normal names are their
own identifiers** (`identifier_eq_self_iff`), so making an identifier of an identifier changes
nothing. What the runs of a text are is said by `Parted` without going through the text.
-/

set_option autoImplicit false

namespace GuardedUi.Name

open Guard

/-! ## Maximal runs -/

/-- The text has these maximal runs of name characters, in this order: before each of them, and
behind the last one, there are other characters only, and none of them is followed by a name
character. -/
inductive Parted : List Char → List (List Char) → Prop where
  | gap {gap : List Char} (hgap : ∀ c ∈ gap, isNameChar c = false) : Parted gap []
  | run {gap run rest : List Char} {found : List (List Char)}
      (hgap : ∀ c ∈ gap, isNameChar c = false) (hrun : IsRun run)
      (hend : ∀ c ∈ rest.head?, isNameChar c = false) (hrest : Parted rest found) :
      Parted (gap ++ (run ++ rest)) (run :: found)

section Runs

variable {gap run rest text : List Char} {found : List (List Char)} {c : Char}

theorem Parted.cons_gap (hc : isNameChar c = false) (h : Parted rest found) :
    Parted (c :: rest) found := by
  cases h with
  | gap hgap => exact .gap (List.forall_mem_cons.mpr ⟨hc, hgap⟩)
  | run hgap hrun hend hrest =>
    rw [← List.cons_append]
    exact .run (List.forall_mem_cons.mpr ⟨hc, hgap⟩) hrun hend hrest

/-- A text that begins with a run. -/
theorem Parted.first (hrun : IsRun run) (hend : ∀ c ∈ rest.head?, isNameChar c = false)
    (hrest : Parted rest found) : Parted (run ++ rest) (run :: found) :=
  .run (List.forall_mem_nil _) hrun hend hrest

theorem runsAfter_cons_gap (hc : isNameChar c = false) (rest : List Char) :
    runsAfter [] (c :: rest) = runsAfter [] rest := by
  rw [runsAfter, if_neg (by simp [hc])]
  rfl

theorem runsAfter_gap (hgap : ∀ c ∈ gap, isNameChar c = false) (rest : List Char) :
    runsAfter [] (gap ++ rest) = runsAfter [] rest := by
  induction gap with
  | nil => rfl
  | cons c gap ih =>
    obtain ⟨hc, hgap⟩ := List.forall_mem_cons.mp hgap
    rw [List.cons_append, runsAfter_cons_gap hc, ih hgap]

theorem runsAfter_run (hrun : ∀ c ∈ run, isNameChar c = true) (rev rest : List Char) :
    runsAfter rev (run ++ rest) = runsAfter (run.reverse ++ rev) rest := by
  induction run generalizing rev with
  | nil => rfl
  | cons c run ih =>
    obtain ⟨hc, hrun⟩ := List.forall_mem_cons.mp hrun
    rw [List.cons_append, runsAfter, if_pos hc, ih hrun, List.reverse_cons, List.append_assoc,
      List.singleton_append]

/-- A run ends where another character follows, or none. -/
theorem runsAfter_end {rev : List Char} (hne : rev ≠ [])
    (hend : ∀ c ∈ rest.head?, isNameChar c = false) :
    runsAfter rev rest = rev.reverse :: runsAfter [] rest := by
  cases rest with
  | nil =>
    obtain ⟨c, rev, rfl⟩ := List.exists_cons_of_ne_nil hne
    rfl
  | cons c rest =>
    have hc : isNameChar c = false := hend c rfl
    have hempty : ¬ rev.isEmpty = true := by simpa using hne
    rw [runsAfter, if_neg (by simp [hc]), if_neg hempty, runsAfter_cons_gap hc]

theorem Parted.runs_eq (h : Parted text found) : runs text = found := by
  rw [runs]
  induction h with
  | gap hgap =>
    have hall := runsAfter_gap hgap []
    rwa [List.append_nil] at hall
  | run hgap hrun hend _ ih =>
    rw [runsAfter_gap hgap, runsAfter_run hrun.2, List.append_nil, runsAfter_end hrun.reverse.1 hend,
      ih, List.reverse_reverse]

/-- By induction on the text, where the run that is begun belongs to it. -/
theorem parted_runsAfter {rev : List Char} (hrev : ∀ c ∈ rev, isNameChar c = true)
    (text : List Char) : Parted (rev.reverse ++ text) (runsAfter rev text) := by
  induction text generalizing rev with
  | nil =>
    cases rev with
    | nil => exact .gap (by simp)
    | cons c rev =>
      have hrun : IsRun (c :: rev).reverse := IsRun.reverse ⟨List.cons_ne_nil c rev, hrev⟩
      exact .first hrun (by simp) (.gap (List.forall_mem_nil _))
  | cons c rest ih =>
    rw [runsAfter]
    by_cases hc : isNameChar c = true
    · rw [if_pos hc]
      have hnext := ih (List.forall_mem_cons.mpr ⟨hc, hrev⟩)
      rwa [List.reverse_cons, List.append_assoc, List.singleton_append] at hnext
    · rw [if_neg hc]
      rw [Bool.not_eq_true] at hc
      have hstart : Parted rest (runsAfter [] rest) := ih (List.forall_mem_nil _)
      have hrest := hstart.cons_gap hc
      by_cases he : rev.isEmpty = true
      · rw [if_pos he, List.isEmpty_iff.mp he]
        exact hrest
      · have hrun : IsRun rev.reverse := IsRun.reverse ⟨by simpa using he, hrev⟩
        rw [if_neg he]
        exact .first hrun (by simpa using hc) hrest

/-- **The runs of a text are its maximal runs.** -/
theorem parted_iff : Parted text found ↔ found = runs text := by
  constructor
  · exact fun h => h.runs_eq.symm
  · rintro rfl
    have hstart : Parted ([] ++ text) (runsAfter [] text) :=
      parted_runsAfter (List.forall_mem_nil _) text
    exact hstart

end Runs

/-! ## The runs of names -/

/-- Runs, and the name of the nameless if there are none. -/
def orNameless : List (List Char) → List (List Char)
  | [] => [nameless]
  | first :: rest => first :: rest

/-- The runs that are joined in an identifier. -/
def folded (text : String) : List (List Char) :=
  (orNameless (runs text.toList)).map fun run => run.map Char.toLower

theorem orNameless_eq_self {found : List (List Char)} (h : found ≠ []) : orNameless found = found := by
  obtain ⟨first, rest, rfl⟩ := List.exists_cons_of_ne_nil h
  rfl

theorem orNameless_ne_nil (found : List (List Char)) : orNameless found ≠ [] := by
  cases found <;> simp [orNameless]

theorem isRun_of_mem_orNameless {found : List (List Char)} (h : ∀ run ∈ found, IsRun run) :
    ∀ run ∈ orNameless found, IsRun run := by
  cases found with
  | nil => exact List.forall_mem_singleton.mpr ⟨by decide, List.all_eq_true.mp (by decide)⟩
  | cons first rest => exact h

theorem IsRun.toLower {run : List Char} (h : IsRun run) : IsRun (run.map Char.toLower) := by
  refine ⟨by simpa using h.1, fun c hc => ?_⟩
  obtain ⟨d, hd, rfl⟩ := List.mem_map.mp hc
  exact isAlphanum_toLower (h.2 d hd)

theorem isRun_of_mem_folded {text : String} : ∀ run ∈ folded text, IsRun run := by
  intro run hrun
  obtain ⟨found, hfound, rfl⟩ := List.mem_map.mp hrun
  exact (isRun_of_mem_orNameless (fun _ => isRun_of_mem_runs) found hfound).toLower

theorem collapse_eq_joinRuns (text : List Char) :
    collapse text = joinRuns (orNameless (runs text)) := by
  rw [collapse]
  cases runs text <;> rfl

theorem map_toLower_joinRuns (found : List (List Char)) :
    (joinRuns found).map Char.toLower = joinRuns (found.map fun run => run.map Char.toLower) := by
  induction found with
  | nil => rfl
  | cons run rest ih =>
    cases rest with
    | nil => rfl
    | cons next rest =>
      rw [joinRuns_cons run (List.cons_ne_nil next rest), List.map_append, List.map_cons, ih]
      rfl

theorem symbol_eq (text : String) :
    symbol text = String.ofList (escapeDigit (joinRuns (orNameless (runs text.toList)))) := by
  rw [symbol, collapse_eq_joinRuns]

theorem identifier_eq (text : String) :
    identifier text = String.ofList (escapeDigit (joinRuns (folded text))) := by
  rw [identifier, collapse_eq_joinRuns, map_toLower_joinRuns, folded]

theorem parted_joinRuns {found : List (List Char)} (h : ∀ run ∈ found, IsRun run) :
    Parted (joinRuns found) found := by
  induction found with
  | nil => exact .gap (by simp [joinRuns])
  | cons run rest ih =>
    obtain ⟨hrun, hrest⟩ := List.forall_mem_cons.mp h
    cases rest with
    | nil =>
      have hlast := Parted.first hrun (by simp) (.gap (List.forall_mem_nil _))
      rwa [List.append_nil] at hlast
    | cons next rest =>
      rw [joinRuns_cons run (List.cons_ne_nil next rest)]
      have hgap : isNameChar '_' = false := by decide
      exact .first hrun (by simpa using hgap) ((ih hrest).cons_gap hgap)

theorem runs_escapeDigit (text : List Char) : runs (escapeDigit text) = runs text := by
  rcases escapeDigit_cases text with h | ⟨d, rest, -, -, h⟩
  · rw [h]
  · rw [h]
    rfl

theorem runs_escapeDigit_joinRuns {found : List (List Char)} (h : ∀ run ∈ found, IsRun run) :
    runs (escapeDigit (joinRuns found)) = found := by
  rw [runs_escapeDigit, (parted_joinRuns h).runs_eq]

theorem runs_symbol (text : String) : runs (symbol text).toList = orNameless (runs text.toList) := by
  rw [symbol_eq, String.toList_ofList]
  exact runs_escapeDigit_joinRuns (isRun_of_mem_orNameless fun _ => isRun_of_mem_runs)

/-- **The runs of an identifier are those of the text, in lower case.** -/
theorem runs_identifier (text : String) : runs (identifier text).toList = folded text := by
  rw [identifier_eq, String.toList_ofList]
  exact runs_escapeDigit_joinRuns isRun_of_mem_folded

/-- **Two texts have the same identifier if and only if they have the same runs, ignoring case.** -/
theorem identifier_eq_iff {s t : String} : identifier s = identifier t ↔ folded s = folded t := by
  constructor
  · intro h
    rw [← runs_identifier, ← runs_identifier, h]
  · intro h
    rw [identifier_eq, identifier_eq, h]

theorem folded_symbol (text : String) : folded (symbol text) = folded text := by
  rw [folded, runs_symbol, orNameless_eq_self (orNameless_ne_nil _), folded]

theorem identifier_symbol (text : String) : identifier (symbol text) = identifier text :=
  identifier_eq_iff.mpr (folded_symbol text)

theorem symbol_symbol (text : String) : symbol (symbol text) = symbol text := by
  rw [symbol_eq (symbol text), runs_symbol, orNameless_eq_self (orNameless_ne_nil _), ← symbol_eq]

/-! ## Small characters -/

/-- A small letter, a digit or an underscore. -/
def IsSmall (c : Char) : Prop :=
  c.isLower = true ∨ c.isDigit = true ∨ c = '_'

section Characters

variable {c : Char}

theorem isDigit_toLower (c : Char) : c.toLower.isDigit = c.isDigit := by
  by_cases h : c.isUpper = true
  · have halpha : c.isAlpha = true := by simp [Char.isAlpha, h]
    have hlower : c.toLower.isAlpha = true := by rw [Char.isAlpha_toLower_eq_isAlpha, halpha]
    rw [Bool.eq_false_iff.mpr (not_isDigit (.inl halpha)),
      Bool.eq_false_iff.mpr (not_isDigit (.inl hlower))]
  · rw [Char.toLower_eq_of_not_isUpper h]

theorem isSmall_toLower (h : isNameChar c = true) : IsSmall c.toLower := by
  rw [isNameChar, Char.isAlphanum, Bool.or_eq_true] at h
  rcases h with h | h
  · exact .inl (by rw [Char.isLower_toLower_eq_isAlpha, h])
  · exact .inr (.inl (by rw [isDigit_toLower, h]))

theorem IsSmall.isIdChar (h : IsSmall c) : isIdChar c = true := by
  rcases h with h | h | rfl
  · simp [Guard.isIdChar, Char.isAlphanum, Char.isAlpha, h]
  · simp [Guard.isIdChar, Char.isAlphanum, h]
  · decide

theorem IsSmall.toLower_eq (h : IsSmall c) : c.toLower = c := by
  refine Char.toLower_eq_of_not_isUpper fun hupper => ?_
  rcases h with h | h | rfl
  · exact Char.not_isLower_of_isUpper hupper h
  · exact not_isDigit (.inl (by simp [Char.isAlpha, hupper])) h
  · exact absurd hupper (by decide)

theorem escapeDigit_map_toLower (text : List Char) :
    escapeDigit (text.map Char.toLower) = (escapeDigit text).map Char.toLower := by
  cases text with
  | nil => rfl
  | cons c rest =>
    rw [List.map_cons, escapeDigit, escapeDigit, isDigit_toLower]
    split <;> rfl

end Characters

/-! ## Normal names -/

/-- The text is made of small letters, digits and underscores. It begins with a letter, or with an
underscore and a digit; no two underscores are adjacent, and none is at the end. -/
structure IsNormal (name : List Char) : Prop where
  chars : ∀ c ∈ name, IsSmall c
  begins : ∃ c rest, name = c :: rest ∧
    (c.isLower = true ∨ c = '_' ∧ ∃ d more, rest = d :: more ∧ d.isDigit = true)
  chain : name.IsChain fun c d => c = '_' → d ≠ '_'
  last : name.getLast? ≠ some '_'

theorem isNormal_escapeDigit {text : List Char} (hne : text ≠ []) (hsep : Separating text)
    (hsmall : ∀ c ∈ text, IsSmall c) : IsNormal (escapeDigit text) := by
  obtain ⟨c, rest, rfl⟩ := List.exists_cons_of_ne_nil hne
  have hc : c ≠ '_' := fun heq => hsep.head (by rw [heq, List.head?_cons])
  rw [escapeDigit]
  split
  · rename_i hdigit
    exact {
      chars := List.forall_mem_cons.mpr ⟨.inr (.inr rfl), hsmall⟩
      begins := ⟨'_', c :: rest, rfl, .inr ⟨rfl, c, rest, rfl, hdigit⟩⟩
      chain := hsep.chain.cons_cons fun _ => hc
      last := by
        rw [List.getLast?_cons_cons]
        exact hsep.last }
  · rename_i hdigit
    have hlower : c.isLower = true := by
      rcases hsmall c List.mem_cons_self with h | h | h
      · exact h
      · exact absurd h hdigit
      · exact absurd h hc
    exact { chars := hsmall, begins := ⟨c, rest, rfl, .inl hlower⟩, chain := hsep.chain,
            last := hsep.last }

theorem isSmall_of_mem_joinRuns_folded {text : String} :
    ∀ c ∈ joinRuns (folded text), IsSmall c := by
  rw [folded, ← map_toLower_joinRuns, ← collapse_eq_joinRuns]
  intro c hc
  obtain ⟨d, hd, rfl⟩ := List.mem_map.mp hc
  by_cases hunder : d = '_'
  · subst hunder
    exact .inr (.inr (by decide))
  · exact isSmall_toLower (isNameChar_of_isIdChar ((isName_collapse _).2 d hd) hunder)

theorem isNormal_identifier (text : String) : IsNormal (identifier text).toList := by
  rw [identifier_eq, String.toList_ofList]
  have hname : IsName (joinRuns (folded text)) :=
    isName_joinRuns (by simpa [folded] using orNameless_ne_nil _) isRun_of_mem_folded
  exact isNormal_escapeDigit hname.1 (separating_joinRuns isRun_of_mem_folded)
    isSmall_of_mem_joinRuns_folded

theorem identifier_eq_toLower_symbol (text : String) : identifier text = (symbol text).toLower := by
  apply String.toList_injective
  rw [String.toLower, String.toList_map, identifier, symbol, String.toList_ofList,
    String.toList_ofList, escapeDigit_map_toLower]

theorem IsNormal.isIdentifier {name : String} (h : IsNormal name.toList) : IsIdentifier name := by
  obtain ⟨c, rest, hname, hbegin⟩ := h.begins
  refine ⟨c, rest, hname, ?_, fun d hd => (h.chars d ?_).isIdChar⟩
  · exact hbegin.imp (fun hlower => by simp [Char.isAlpha, hlower]) And.left
  · rw [hname]
    exact List.mem_cons_of_mem c hd

theorem IsNormal.kept {name : List Char} (h : IsNormal name) : Kept name := by
  obtain ⟨c, rest, rfl, hlower | ⟨rfl, d, more, rfl, hdigit⟩⟩ := h.begins
  · refine .inl ⟨fun hhead => ?_, h.last, h.chain⟩
    obtain rfl : c = '_' := Option.some.inj hhead
    exact absurd hlower (by decide)
  · refine .inr ⟨d, more, rfl, hdigit, fun hhead => ?_, ?_, h.chain.tail⟩
    · obtain rfl : d = '_' := Option.some.inj hhead
      exact absurd hdigit (by decide)
    · have hlast := h.last
      rwa [List.getLast?_cons_cons] at hlast

/-- **Exactly the normal names are their own identifiers.** -/
theorem identifier_eq_self_iff {name : String} :
    identifier name = name ↔ IsNormal name.toList := by
  constructor
  · intro h
    exact h ▸ isNormal_identifier name
  · intro h
    rw [identifier_eq_toLower_symbol, (symbol_eq_self_iff h.isIdentifier).mpr h.kept]
    apply String.toList_injective
    rw [String.toLower, String.toList_map]
    calc name.toList.map Char.toLower
        = name.toList.map id := List.map_congr_left fun c hc => (h.chars c hc).toLower_eq
      _ = name.toList := List.map_id _

/-- **Making identifiers normalizes texts.** An identifier is a normal name, and the same for the
identifier and the symbol of a text as for the text; it is the symbol in lower case, and the symbol
of a symbol is that symbol. Texts have the same identifier exactly if they have the same maximal
runs of ASCII letters and digits ignoring case, where a text without any counts as `obj`. -/
theorem identifier_normalizes :
    (∀ text, IsNormal (identifier text).toList) ∧
    (∀ text, identifier (identifier text) = identifier text ∧
      identifier (symbol text) = identifier text ∧ identifier text = (symbol text).toLower ∧
      symbol (symbol text) = symbol text) ∧
    (∀ s t, identifier s = identifier t ↔
      (orNameless (runs s.toList)).map (fun run => run.map Char.toLower) =
        (orNameless (runs t.toList)).map fun run => run.map Char.toLower) ∧
    ∀ text found, Parted text found ↔ found = runs text := by
  refine ⟨isNormal_identifier, fun text => ⟨?_, identifier_symbol text, ?_, symbol_symbol text⟩,
    fun s t => identifier_eq_iff, fun text found => parted_iff⟩
  · exact identifier_eq_self_iff.mpr (isNormal_identifier text)
  · exact identifier_eq_toLower_symbol text

example : identifier "3D--View" = identifier "3d view" := by decide
example : identifier "3Dview" ≠ identifier "3d view" := by decide

end GuardedUi.Name
