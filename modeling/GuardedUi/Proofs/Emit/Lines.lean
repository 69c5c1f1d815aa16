import GuardedUi.Emit.Document
import GuardedUi.Proofs.Emit.Characters
import GuardedUi.Proofs.Guard.Order

/-!
# `Proofs/Emit/Lines` — what lines of a document say

A generated document is a list of lines. White space may stand inside a marker, line breaks too, so
it takes an argument that a marker is never spread over two lines. `HasKeys lines found` is that
argument in a form that is put together line by line: the markers of the lines have the keys
`found`, and whatever stands behind them, no marker that begins in them reaches there.

> **Lines that are put together have the markers of each of them** (`HasKeys.append`).

There are four sorts of lines: those without a slash, comments, the markers themselves, and those
that show a text, which have the markers of the text.
-/

set_option autoImplicit false

namespace GuardedUi

open Guard

/-- Lines with a line break behind each of them. -/
def linesText (lines : List String) : List Char :=
  lines.flatMap fun line => line.toList ++ ['\n']

@[simp] theorem linesText_nil : linesText [] = [] :=
  rfl

@[simp] theorem linesText_append (a b : List String) :
    linesText (a ++ b) = linesText a ++ linesText b :=
  List.flatMap_append

theorem linesText_cons (line : String) (rest : List String) :
    linesText (line :: rest) = line.toList ++ '\n' :: linesText rest := by
  rw [linesText, List.flatMap_cons, List.append_assoc]
  rfl

theorem toList_endLines {lines : List String} (h : lines ≠ []) :
    (endLines lines).toList = linesText lines := by
  rw [endLines, String.toList_append]
  induction lines with
  | nil => exact absurd rfl h
  | cons line rest ih =>
    cases rest with
    | nil => simp [joinLines, linesText]
    | cons next rest =>
      rw [joinLines, linesText_cons, ← ih (by simp)]
      · simp [String.toList_append]
      · simp

/-! ## The markers of lines -/

/-- The markers of the lines have these keys, and none that begins in them reaches beyond them. -/
structure HasKeys (lines : List String) (found : List (Kind × String)) : Prop where
  closed : Closed (linesText lines)
  keys : keys (linesText lines) = found

namespace HasKeys

theorem nil : HasKeys [] [] :=
  ⟨closed_nil, rfl⟩

theorem append {a b : List String} {foundA foundB : List (Kind × String)} (ha : HasKeys a foundA)
    (hb : HasKeys b foundB) : HasKeys (a ++ b) (foundA ++ foundB) := by
  constructor
  · rw [linesText_append]
    exact ha.closed.append hb.closed
  · rw [linesText_append, ha.closed.keys_append, ha.keys, hb.keys]

theorem flatMap {α : Type} {f : α → List String} {found : α → List (Kind × String)}
    {items : List α} (h : ∀ item ∈ items, HasKeys (f item) (found item)) :
    HasKeys (items.flatMap f) (items.flatMap found) := by
  induction items with
  | nil => exact nil
  | cons item rest ih =>
    exact (h item List.mem_cons_self).append
      (ih fun other ho => h other (List.mem_cons_of_mem item ho))

theorem markerFree {lines : List String} (h : HasKeys lines []) :
    MarkerFree (linesText lines) :=
  keys_eq_nil_iff.mp h.keys

theorem of_slashFree {lines : List String} (h : ∀ line ∈ lines, SlashFree line) :
    HasKeys lines [] := by
  have hslash : '/' ∉ linesText lines := by
    intro hm
    obtain ⟨line, hline, hm⟩ := List.mem_flatMap.mp hm
    rcases List.mem_append.mp hm with hm | hm
    · exact h line hline hm
    · exact absurd (List.mem_singleton.mp hm) (by decide)
  exact ⟨closed_of_slash_not_mem hslash, keys_eq_nil (markerFree_of_slash_not_mem hslash)⟩

/-- A line that ends with a comment sign, whatever stands before it. -/
theorem closed_comment {line : String} (front : String) (h : line = front ++ "*/") :
    Closed (linesText [line]) := by
  have htext : linesText [line] = (front.toList ++ ['*']) ++ '/' :: '\n' :: [] := by
    rw [h, linesText_cons, String.toList_append]
    simp
  rw [htext]
  exact closed_of_slash (by decide) (by decide)

theorem of_comment {line : String} (front : String) (h : line = front ++ "*/")
    (hkeys : Guard.keys (linesText [line]) = []) : HasKeys [line] [] :=
  ⟨closed_comment front h, hkeys⟩

theorem of_shown {line front content : String} (hfront : SlashFree front)
    (h : line = front ++ content ++ "\");") : HasKeys [line] (Guard.keys content.toList) := by
  have hback : '/' ∉ '"' :: [')', ';', '\n'] := by decide
  have hclosed : Closed front.toList := closed_of_slash_not_mem hfront
  have htext : linesText [line] =
      front.toList ++ (content.toList ++ '"' :: [')', ';', '\n']) := by
    rw [h, linesText_cons]
    simp [String.toList_append]
  constructor
  · rw [htext, ← List.append_assoc]
    exact closed_of_breaker (by decide) (by decide) (by decide) (by decide)
  · rw [htext, hclosed.keys_append, keys_append (apart_of_slash_not_mem_right hback),
      keys_eq_nil (markerFree_of_slash_not_mem hfront),
      keys_eq_nil (markerFree_of_slash_not_mem hback), List.nil_append, List.append_nil]

end HasKeys

/-! ## Lines of regions -/

theorem text_eq (kind : Kind) (id : String) :
    kind.text id = "/* USER CODE " ++ String.ofList kind.word ++ " " ++ id ++ " */" :=
  rfl

/-- The standard form of a marker is one. -/
theorem isMarker_text (kind : Kind) {id : String} (h : IsWord id) :
    IsMarker kind id.toList (kind.text id).toList := by
  have hblank : Gap [' '] := ⟨by simp, by simp [Blanks]; decide⟩
  have hmarker : IsMarker kind id.toList _ :=
    .intro hblank.2 hblank hblank hblank h hblank.2
  simpa [text_eq, String.toList_append] using hmarker

/-- The two lines of an empty region inside a function. -/
def regionText (id : String) : List String :=
  [indentation ++ Kind.opening.text id, indentation ++ Kind.closing.text id]

theorem regionLines_eq {id : String} (h : IsWord id) :
    regionLines id indentation = .ok (regionText id) := by
  rw [regionLines, if_pos (isRegionId_iff.mpr h)]
  rfl

namespace HasKeys

theorem of_marker (kind : Kind) {id : String} (h : IsWord id) :
    HasKeys [indentation ++ kind.text id] [(kind, id)] := by
  constructor
  · refine closed_comment (indentation ++ "/* USER CODE " ++ String.ofList kind.word ++ " " ++ id ++
      " ") ?_
    apply String.toList_injective
    simp [text_eq, String.toList_append]
  · have htext : linesText [indentation ++ kind.text id] =
        indentation.toList ++ ((kind.text id).toList ++ ['\n']) := by
      rw [linesText_cons, String.toList_append]
      simp
    have hindent : '/' ∉ indentation.toList := by decide
    rw [htext, (closed_of_slash_not_mem hindent).keys_append,
      keys_eq_nil (markerFree_of_slash_not_mem hindent), keys_marker_append (isMarker_text kind h),
      keys_eq_nil (markerFree_of_slash_not_mem (by decide)), String.ofList_toList]
    rfl

theorem of_region {id : String} (h : IsWord id) : HasKeys (regionText id) (regionKeys [id]) :=
  (of_marker .opening h).append (of_marker .closing h)

/-- The line of a statement has the markers of the text that it shows. -/
theorem of_statement {s : Statement} (h : s.Tame) :
    HasKeys [s.line] (s.shown?.toList.flatMap fun text => Guard.keys text.toList) := by
  rcases s.line_cases h with ⟨hnone, hslash⟩ | ⟨front, content, hsome, hfront, hline⟩
  · rw [hnone]
    exact of_slashFree (by simpa using hslash)
  · rw [hsome, Option.toList_some, List.flatMap_singleton]
    exact of_shown hfront hline

/-- The lines of statements have the markers of the texts that they show, in order. -/
theorem of_statements {statements : List Statement} (h : ∀ s ∈ statements, s.Tame) :
    HasKeys (statements.map Statement.line)
      ((statements.filterMap Statement.shown?).flatMap fun text => Guard.keys text.toList) := by
  induction statements with
  | nil => exact nil
  | cons s rest ih =>
    have hline := of_statement (h s List.mem_cons_self)
    have hrest := ih fun other ho => h other (List.mem_cons_of_mem s ho)
    have hboth := hline.append hrest
    rw [List.map_cons, List.filterMap_cons]
    cases hshown : s.shown? with
    | none => simpa [hshown] using hboth
    | some content => simpa [hshown] using hboth

end HasKeys

end GuardedUi
