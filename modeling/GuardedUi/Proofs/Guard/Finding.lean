import GuardedUi.Proofs.Guard.Scanning
import GuardedUi.Proofs.Text.Utf8

/-!
# `Proofs/Guard/Finding` — which markers are found

Scanning passes over the characters of every marker that it finds, so a marker that begins among
these is never looked at. How many of them are lost in this way? The characters of a marker are
blanks and characters of names, except for the comment signs. One marker can begin inside another
only with the slash that the other one ends with (`Stands.stop_eq_of_lt`), and

> **Scanning finds markers, one behind the other, and it finds all of them** but those of which the
> first slash is the last character of a marker that it has found (`scan_finds`).

`Stands` says that a marker is in a text, without saying how it was found. A marker is determined by
the place where it begins (`Stands.eq_of_start_eq`), as each part of it ends where a character of
another class comes. Places are counted in characters, and so the bytes between them are those of
the marker (`Text.Utf8.slice_eq`).
-/

set_option autoImplicit false

namespace GuardedUi.Guard

/-! ## Markers of a text -/

/-- The marker stands in the text, which begins at a position: between its two places there is a
marker of its kind and its name. -/
def Stands (position : Nat) (text : List Char) (m : Marker) : Prop :=
  ∃ before mark after, text = before ++ (mark ++ after) ∧ m.start = position + before.length ∧
    m.stop = m.start + mark.length ∧ IsMarker m.kind m.id.toList mark

namespace Stands

variable {position : Nat} {text rest : List Char} {c : Char} {m n : Marker}

theorem front {kind : Kind} {id mark : List Char} (h : IsMarker kind id mark) :
    Stands position (mark ++ rest) ⟨kind, String.ofList id, position, position + mark.length⟩ := by
  refine ⟨[], mark, rest, rfl, rfl, rfl, ?_⟩
  show IsMarker kind (String.ofList id).toList mark
  rw [String.toList_ofList]
  exact h

theorem cons (h : Stands (position + 1) rest m) : Stands position (c :: rest) m := by
  obtain ⟨before, mark, after, rfl, hstart, hstop, hm⟩ := h
  refine ⟨c :: before, mark, after, rfl, ?_, hstop, hm⟩
  rw [hstart, List.length_cons]
  omega

/-- A marker that does not stand at the front of a text stands behind its first character. -/
theorem tail (h : Stands position (c :: rest) m) (hlt : position < m.start) :
    Stands (position + 1) rest m := by
  obtain ⟨before, mark, after, htext, hstart, hstop, hm⟩ := h
  cases before with
  | nil =>
    rw [List.length_nil] at hstart
    omega
  | cons b before =>
    refine ⟨before, mark, after, (List.cons.inj htext).2, ?_, hstop, hm⟩
    rw [hstart, List.length_cons]
    omega

theorem not_nil (h : Stands position [] m) : False := by
  obtain ⟨before, mark, after, htext, -, -, hm⟩ := h
  have hmark : mark ++ after = [] := (List.append_eq_nil_iff.mp htext.symm).2
  exact hm.ne_nil (List.append_eq_nil_iff.mp hmark).1

/-- Where no marker can be read, none stands at the front. -/
theorem lt_of_ofPrefix? (h : Stands position text m) (hnone : Mark.ofPrefix? text = none) :
    position < m.start := by
  obtain ⟨before, mark, after, rfl, hstart, -, hm⟩ := h
  cases before with
  | nil =>
    rw [List.nil_append, ofPrefix?_append hm] at hnone
    cases hnone
  | cons b before =>
    rw [hstart, List.length_cons]
    omega

/-- **A marker is determined by the place where it begins**: reading from there finds it. -/
theorem eq_of_start_eq (hm : Stands position text m) (hn : Stands position text n)
    (heq : m.start = n.start) : m = n := by
  obtain ⟨before, mark, after, rfl, hmstart, hmstop, hmark⟩ := hm
  obtain ⟨before', mark', after', htext, hnstart, hnstop, hmark'⟩ := hn
  have hlength : before.length = before'.length := by omega
  obtain ⟨rfl, hrest⟩ := List.append_inj htext hlength
  have hread : Mark.ofPrefix? (mark ++ after) = _ := ofPrefix?_append hmark
  rw [hrest, ofPrefix?_append hmark'] at hread
  obtain ⟨hkind, hid, hlen⟩ := Mark.mk.inj (Option.some.inj hread)
  have hstop : m.stop = n.stop := by rw [hmstop, hnstop, heq, hlen]
  calc m = ⟨m.kind, m.id, m.start, m.stop⟩ := rfl
    _ = ⟨n.kind, n.id, n.start, n.stop⟩ := by
      rw [hkind, String.toList_injective hid, heq, hstop]
    _ = n := rfl

/-- **Two markers share one character at most**: the slash that one of them begins with ends the
other one. -/
theorem stop_eq_of_lt (hm : Stands position text m) (hn : Stands position text n)
    (hlt : n.start < m.start) (hin : m.start < n.stop) : n.stop = m.start + 1 := by
  obtain ⟨before, mark, after, rfl, hmstart, -, hmark⟩ := hm
  obtain ⟨before', mark', after', htext, hnstart, hnstop, hmark'⟩ := hn
  obtain ⟨tail, rfl⟩ := hmark.head_eq
  have hbefore : before'.length < before.length := by omega
  have hmark'length : before.length < before'.length + mark'.length := by omega
  -- The first text of each pair is cut at the place where the inner marker begins.
  rcases List.append_eq_append_iff.mp htext with ⟨more, rfl, -⟩ | ⟨front, rfl, hrest⟩
  · rw [List.length_append] at hbefore
    omega
  · rw [List.length_append] at hbefore hmark'length
    rcases List.append_eq_append_iff.mp hrest with ⟨more, rfl, -⟩ | ⟨back, rfl, hslash⟩
    · rw [List.length_append] at hmark'length
      omega
    · rw [List.length_append] at hmark'length
      obtain ⟨d, back, rfl⟩ : ∃ d ds, back = d :: ds :=
        List.exists_cons_of_ne_nil (by rintro rfl; simp at hmark'length)
      obtain rfl : '/' = d := (List.cons.inj hslash).1
      have hne : front ≠ [] := by
        rintro rfl
        simp at hbefore
      obtain ⟨rfl, -⟩ := hmark'.slash_split hne
      simp only [List.length_append, List.length_singleton] at hmstart hnstop
      omega

end Stands

/-! ## Soundness -/

/-- What is found stands in the text. -/
theorem stands_of_mem_scanFrom {position skip : Nat} {text : List Char} {m : Marker}
    (h : m ∈ scanFrom position skip text) : Stands position text m := by
  induction text generalizing position skip with
  | nil => cases skip <;> simp [scanFrom] at h
  | cons c rest ih =>
    cases skip with
    | succ skip => exact (ih h).cons
    | zero =>
      rw [scanFrom] at h
      cases hc : Mark.ofPrefix? (c :: rest) with
      | none =>
        rw [hc] at h
        exact (ih h).cons
      | some mark =>
        rw [hc] at h
        obtain ⟨read, after, hmark, htext, hlen⟩ := ofPrefix?_eq_some hc
        rcases List.mem_cons.mp h with rfl | h
        · rw [htext, hlen]
          exact .front hmark
        · exact (ih h).cons

/-- Markers lie in the text. -/
theorem stop_le_length {document : List Char} {m : Marker} (h : m ∈ scan document) :
    m.stop ≤ document.length := by
  obtain ⟨before, mark, after, rfl, hstart, hstop, -⟩ := stands_of_mem_scanFrom h
  simp only [List.length_append]
  omega

/-! ## Completeness -/

/-- **No marker is lost**, of those that do not begin among the characters to be passed over, but
for those that begin with the last character of a marker that is found. By induction on the text: a
marker at its front is found, and one that is found there keeps only markers of the second kind from
being found. -/
theorem mem_scanFrom_or {position skip : Nat} {text : List Char} {m : Marker}
    (h : Stands position text m) (hskip : position + skip ≤ m.start) :
    m ∈ scanFrom position skip text ∨ ∃ n ∈ scanFrom position skip text, n.stop = m.start + 1 := by
  induction text generalizing position skip with
  | nil => exact h.not_nil.elim
  | cons c rest ih =>
    cases skip with
    | succ skip =>
      rw [scanFrom]
      exact ih (h.tail (by omega)) (by omega)
    | zero =>
      rw [scanFrom]
      cases hc : Mark.ofPrefix? (c :: rest) with
      | none =>
        have hlt := h.lt_of_ofPrefix? hc
        exact ih (h.tail hlt) (by omega)
      | some mark =>
        obtain ⟨read, after, hmark, htext, hlen⟩ := ofPrefix?_eq_some hc
        have hfront : Stands position (c :: rest)
            ⟨mark.kind, String.ofList mark.id, position, position + mark.length⟩ := by
          rw [htext, hlen]
          exact .front hmark
        by_cases hstart : m.start = position
        · exact .inl (h.eq_of_start_eq hfront hstart ▸ List.mem_cons_self)
        · by_cases hin : m.start < position + mark.length
          · exact .inr ⟨_, List.mem_cons_self, h.stop_eq_of_lt hfront (by simp only; omega) hin⟩
          · have hlater : m ∈ scanFrom (position + 1) (mark.length - 1) rest ∨
                ∃ n ∈ scanFrom (position + 1) (mark.length - 1) rest, n.stop = m.start + 1 :=
              ih (h.tail (by omega)) (by omega)
            refine hlater.imp (List.mem_cons_of_mem _) ?_
            rintro ⟨n, hn, hstop⟩
            exact ⟨n, List.mem_cons_of_mem _ hn, hstop⟩

/-! ## All markers -/

/-- **Scanning finds all markers and nothing else.** What it finds stands in the text, in ascending
order and one behind the other; the bytes between its two places are those of a marker of this kind
and name. A marker of the text that it does not find begins with the slash that ends one of
these. -/
theorem scan_finds (document : List Char) :
    ((scan document).Pairwise fun m n => m.start < n.start ∧ m.stop ≤ n.start) ∧
      (∀ m ∈ scan document, Stands 0 document m ∧ ∃ mark, IsMarker m.kind m.id.toList mark ∧
        Text.Utf8.decode? (Text.Utf8.slice document m.start m.stop) = some mark) ∧
      ∀ m, Stands 0 document m →
        m ∈ scan document ∨ ∃ n ∈ scan document, n.stop = m.start + 1 := by
  refine ⟨?_, fun m hm => ?_, fun m hm => mem_scanFrom_or hm (Nat.zero_le _)⟩
  · refine (scan_pairwise document).imp_of_mem fun {m n} hm _ hle => ⟨?_, hle⟩
    exact Nat.lt_of_lt_of_le (start_lt_stop hm) hle
  · have hstands := stands_of_mem_scanFrom hm
    refine ⟨hstands, ?_⟩
    obtain ⟨before, mark, after, rfl, hstart, hstop, hmark⟩ := hstands
    rw [Nat.zero_add] at hstart
    refine ⟨mark, hmark, ?_⟩
    rw [hstop, hstart, Text.Utf8.slice_eq, Text.Utf8.decode?_encode]

/-- The slash is taken: the second marker of this text is not found. -/
example : scan "/*USER CODE END a*/*USER CODE END b*/".toList = [⟨.closing, "a", 0, 19⟩] := by
  decide +kernel

end GuardedUi.Guard
