import GuardedUi.Guard.Marker

/-!
# `Proofs/Guard/Grammar` — what a marker is

`markerAt?` reads a marker from the front of a text and never goes back. `IsMarker` says what a
marker is without reading it: comment signs, two fixed words, a third that gives the kind, and a
name, with blanks between them that only next to the comment signs may be missing.

> **Reading is exact**: `markerAt?` finds a marker at the front of a text if and only if the text
> begins with one, and it finds that one (`markerAt?_eq_some_iff`).

The other half of the file is about the characters of a marker. A slash stands at its two ends and
nowhere else, and everything between the comment signs is a blank or a character of names. That is
all that the theory of documents uses, so it is said here once (`IsMarker.slash_split`,
`IsMarker.mem_inner`).
-/

set_option autoImplicit false

namespace GuardedUi.Guard

/-! ## The grammar -/

/-- Blanks that may be missing. -/
def Blanks (text : List Char) : Prop :=
  ∀ c ∈ text, Text.isBlank c = true

/-- Blanks that may not. -/
def Gap (text : List Char) : Prop :=
  text ≠ [] ∧ Blanks text

/-- The name of a region. -/
def IsName (id : List Char) : Prop :=
  id ≠ [] ∧ ∀ c ∈ id, isIdChar c = true

/-- A marker of the given kind and name, in any spelling. -/
inductive IsMarker (kind : Kind) (id : List Char) : List Char → Prop where
  | intro {lead user code word last : List Char} (hlead : Blanks lead) (huser : Gap user)
      (hcode : Gap code) (hword : Gap word) (hid : IsName id) (hlast : Blanks last) :
      IsMarker kind id (['/', '*'] ++ (lead ++ (['U', 'S', 'E', 'R'] ++ (user ++
        (['C', 'O', 'D', 'E'] ++ (code ++ (kind.word ++ (word ++ (id ++ (last ++
          ['*', '/']))))))))))

/-! ## Characters

Blanks, characters of names, and the two that make comment signs are different from each other. -/

theorem toNat_of_isIdChar {c : Char} (h : isIdChar c = true) :
    (48 ≤ c.toNat ∧ c.toNat ≤ 57) ∨ (65 ≤ c.toNat ∧ c.toNat ≤ 90) ∨
      (97 ≤ c.toNat ∧ c.toNat ≤ 122) ∨ c.toNat = 95 := by
  -- The classes of characters are given by their first and last one.
  have hrange : ∀ low high : Char,
      (decide (c.val ≥ low.val) && decide (c.val ≤ high.val)) = true →
        low.toNat ≤ c.toNat ∧ c.toNat ≤ high.toNat := fun low high hc => by
    rw [Bool.and_eq_true, decide_eq_true_eq, decide_eq_true_eq] at hc
    exact hc
  rcases (Bool.or_eq_true _ _).mp h with h | h
  · rcases (Bool.or_eq_true _ _).mp h with h | h
    · rcases (Bool.or_eq_true _ _).mp h with h | h
      · exact Or.inr (Or.inl (of_decide_eq_true h))
      · exact Or.inr (Or.inr (Or.inl (hrange 'a' 'z' h)))
    · exact Or.inl (hrange '0' '9' h)
  · obtain rfl := eq_of_beq h
    exact Or.inr (Or.inr (Or.inr rfl))

theorem not_isBlank_of_isIdChar {c : Char} (h : isIdChar c = true) : Text.isBlank c = false := by
  have hn := toNat_of_isIdChar h
  simp only [Text.isBlank, Bool.or_eq_false_iff, Bool.and_eq_false_iff, decide_eq_false_iff_not,
    beq_eq_false_iff_ne]
  omega

/-- What stands between the comment signs of a marker. -/
def isInner (c : Char) : Bool :=
  Text.isBlank c || isIdChar c

theorem isInner_slash : isInner '/' = false := by decide

theorem isInner_of_mem_word {kind : Kind} {c : Char} (h : c ∈ kind.word) : isInner c = true := by
  cases kind <;> simp only [Kind.word, List.mem_cons, List.not_mem_nil, or_false] at h
  · rcases h with rfl | rfl | rfl | rfl | rfl <;> decide
  · rcases h with rfl | rfl | rfl <;> decide

/-! ## Reading, part by part -/

theorem after?_eq_some_iff {word text rest : List Char} :
    after? word text = some rest ↔ text = word ++ rest := by
  induction word generalizing text with
  | nil => simp [after?, eq_comm]
  | cons w ws ih =>
    cases text with
    | nil => simp [after?]
    | cons c cs =>
      by_cases h : w = c
      · simp [after?, h, ih]
      · simp [after?, h, Ne.symm h]

theorem skipBlanks_append {blanks text : List Char} {c : Char} (hb : Blanks blanks)
    (hc : Text.isBlank c = false) : skipBlanks (blanks ++ c :: text) = c :: text := by
  rw [skipBlanks, List.dropWhile_append_of_pos hb, List.dropWhile_cons_of_neg (by simp [hc])]

theorem skipSomeBlanks?_append {blanks text : List Char} {c : Char} (hb : Gap blanks)
    (hc : Text.isBlank c = false) : skipSomeBlanks? (blanks ++ c :: text) = some (c :: text) := by
  obtain ⟨hne, hb⟩ := hb
  cases blanks with
  | nil => exact absurd rfl hne
  | cons b bs =>
    have hbs : Blanks bs := fun x hx => hb x (List.mem_cons_of_mem b hx)
    simp [skipSomeBlanks?, hb b List.mem_cons_self, skipBlanks_append hbs hc]

/-- What is skipped is blank. -/
theorem exists_blanks_of_skipBlanks (text : List Char) :
    ∃ blanks, Blanks blanks ∧ text = blanks ++ skipBlanks text :=
  ⟨text.takeWhile Text.isBlank, fun _ hc => List.all_eq_true.mp List.all_takeWhile _ hc,
    List.takeWhile_append_dropWhile.symm⟩

theorem exists_gap_of_skipSomeBlanks? {text rest : List Char}
    (h : skipSomeBlanks? text = some rest) : ∃ gap, Gap gap ∧ text = gap ++ rest := by
  cases text with
  | nil => simp [skipSomeBlanks?] at h
  | cons c cs =>
    by_cases hc : Text.isBlank c = true
    · simp only [skipSomeBlanks?, hc, if_true, Option.some.injEq] at h
      obtain ⟨blanks, hb, hcs⟩ := exists_blanks_of_skipBlanks cs
      refine ⟨c :: blanks, ⟨by simp, ?_⟩, by rw [List.cons_append, ← h, ← hcs]⟩
      intro x hx
      rcases List.mem_cons.mp hx with rfl | hx
      · exact hc
      · exact hb x hx
    · simp [skipSomeBlanks?, hc] at h

theorem kindWord?_eq_some_iff {text rest : List Char} {kind : Kind} :
    kindWord? text = some (kind, rest) ↔ text = kind.word ++ rest := by
  unfold kindWord?
  cases ho : after? Kind.opening.word text with
  | some other =>
    have ht := after?_eq_some_iff.mp ho
    subst ht
    -- The two words differ in their first letter, so the second reading cannot hold.
    cases kind <;> simp [Kind.word, eq_comm]
  | none =>
    have hn : ∀ rest, text ≠ Kind.opening.word ++ rest := fun rest ht => by
      rw [after?_eq_some_iff.mpr ht] at ho
      exact absurd ho (by simp)
    cases kind with
    | opening => simpa using hn rest
    | closing => simp [after?_eq_some_iff]

/-! ## Reading is exact -/

/-- A word that begins with a character of names, behind blanks that must be there. -/
theorem skipSomeBlanks?_bind_after? {gap word rest : List Char} {w : Char} (hg : Gap gap)
    (hw : isIdChar w = true) :
    (skipSomeBlanks? (gap ++ (w :: word ++ rest))).bind (after? (w :: word)) = some rest := by
  rw [List.cons_append, skipSomeBlanks?_append hg (not_isBlank_of_isIdChar hw), Option.bind_some,
    after?_eq_some_iff, List.cons_append]

theorem skipSomeBlanks?_bind_kindWord? {gap rest : List Char} {kind : Kind} (hg : Gap gap) :
    (skipSomeBlanks? (gap ++ (kind.word ++ rest))).bind kindWord? = some (kind, rest) := by
  have hk : ∃ w ws, kind.word = w :: ws ∧ Text.isBlank w = false := by
    cases kind <;> exact ⟨_, _, rfl, by decide⟩
  obtain ⟨w, ws, hw, hb⟩ := hk
  rw [hw, List.cons_append, skipSomeBlanks?_append hg hb, Option.bind_some,
    kindWord?_eq_some_iff, hw, List.cons_append]

/-- The name ends where a blank or the comment sign begins. -/
theorem span_isIdChar {id last rest : List Char} (hid : IsName id) (hlast : Blanks last) :
    (id ++ (last ++ '*' :: rest)).takeWhile isIdChar = id ∧
      (id ++ (last ++ '*' :: rest)).dropWhile isIdChar = last ++ '*' :: rest := by
  have hstop : ∃ c cs, last ++ '*' :: rest = c :: cs ∧ isIdChar c = false := by
    cases last with
    | nil => exact ⟨'*', rest, rfl, by decide⟩
    | cons b bs =>
      refine ⟨b, bs ++ '*' :: rest, rfl, ?_⟩
      cases hb : isIdChar b with
      | false => rfl
      | true =>
        have hblank := hlast b List.mem_cons_self
        rw [not_isBlank_of_isIdChar hb] at hblank
        exact absurd hblank (by simp)
  obtain ⟨c, cs, hcs, hc⟩ := hstop
  rw [hcs]
  constructor
  · rw [List.takeWhile_append_of_pos hid.2, List.takeWhile_cons_of_neg (by simp [hc]),
      List.append_nil]
  · rw [List.dropWhile_append_of_pos hid.2, List.dropWhile_cons_of_neg (by simp [hc])]

theorem markerAt?_append {kind : Kind} {id mark rest : List Char} (h : IsMarker kind id mark) :
    markerAt? (mark ++ rest) = some (kind, id, rest) := by
  obtain ⟨hlead, huser, hcode, hword, hid, hlast⟩ := h
  rename_i lead user code word last
  obtain ⟨i, is, rfl⟩ := List.exists_cons_of_ne_nil hid.1
  have hi : Text.isBlank i = false := not_isBlank_of_isIdChar (hid.2 i List.mem_cons_self)
  -- The texts that are left after each part, from the last one back to the first.
  let afterWord := word ++ (i :: is ++ (last ++ '*' :: '/' :: rest))
  let afterCode := code ++ (kind.word ++ afterWord)
  let afterUser := user ++ ('C' :: ['O', 'D', 'E'] ++ afterCode)
  let afterSign := lead ++ 'U' :: (['S', 'E', 'R'] ++ afterUser)
  have htext : ['/', '*'] ++ (lead ++ (['U', 'S', 'E', 'R'] ++ (user ++ (['C', 'O', 'D', 'E'] ++
      (code ++ (kind.word ++ (word ++ (i :: is ++ (last ++ ['*', '/']))))))))) ++ rest =
      ['/', '*'] ++ afterSign := by
    simp [afterSign, afterUser, afterCode, afterWord]
  have hsign : after? ['/', '*'] (['/', '*'] ++ afterSign) = some afterSign :=
    after?_eq_some_iff.mpr rfl
  have hUser : after? ['U', 'S', 'E', 'R'] (skipBlanks afterSign) = some afterUser := by
    rw [skipBlanks_append hlead (by decide), after?_eq_some_iff]
    rfl
  have hCode : (skipSomeBlanks? afterUser).bind (after? ['C', 'O', 'D', 'E']) = some afterCode :=
    skipSomeBlanks?_bind_after? huser (by decide)
  have hKind : (skipSomeBlanks? afterCode).bind kindWord? = some (kind, afterWord) :=
    skipSomeBlanks?_bind_kindWord? hcode
  have hName : skipSomeBlanks? afterWord = some (i :: is ++ (last ++ '*' :: '/' :: rest)) :=
    skipSomeBlanks?_append hword hi
  have hEnd : after? ['*', '/'] (skipBlanks (last ++ '*' :: '/' :: rest)) = some rest := by
    rw [skipBlanks_append hlast (by decide), after?_eq_some_iff]
    rfl
  obtain ⟨htake, hdrop⟩ := @span_isIdChar _ _ ('/' :: rest) hid hlast
  rw [htext]
  simp only [markerAt?, hsign, hUser, hCode, hKind, hName, htake, hdrop, hEnd]
  simp

/-- The parts that `markerAt?` reads, put together. -/
theorem isMarker_of_parts {kind : Kind}
    {text afterSign afterUser afterCode afterWord afterGap rest : List Char}
    (hsign : after? ['/', '*'] text = some afterSign)
    (hUser : after? ['U', 'S', 'E', 'R'] (skipBlanks afterSign) = some afterUser)
    (hCode : (skipSomeBlanks? afterUser).bind (after? ['C', 'O', 'D', 'E']) = some afterCode)
    (hKind : (skipSomeBlanks? afterCode).bind kindWord? = some (kind, afterWord))
    (hName : skipSomeBlanks? afterWord = some afterGap)
    (hid : afterGap.takeWhile isIdChar ≠ [])
    (hEnd : after? ['*', '/'] (skipBlanks (afterGap.dropWhile isIdChar)) = some rest) :
    ∃ mark, IsMarker kind (afterGap.takeWhile isIdChar) mark ∧ text = mark ++ rest := by
  obtain ⟨lead, hlead, htext₁⟩ := exists_blanks_of_skipBlanks afterSign
  obtain ⟨cs, hcs, hCode⟩ := Option.bind_eq_some_iff.mp hCode
  obtain ⟨user, huser, htext₂⟩ := exists_gap_of_skipSomeBlanks? hcs
  obtain ⟨ks, hks, hKind⟩ := Option.bind_eq_some_iff.mp hKind
  obtain ⟨code, hcode, htext₃⟩ := exists_gap_of_skipSomeBlanks? hks
  obtain ⟨word, hword, htext₄⟩ := exists_gap_of_skipSomeBlanks? hName
  obtain ⟨last, hlast, htext₅⟩ := exists_blanks_of_skipBlanks (afterGap.dropWhile isIdChar)
  rw [after?_eq_some_iff] at hsign hUser hCode hEnd
  rw [kindWord?_eq_some_iff] at hKind
  have hname : IsName (afterGap.takeWhile isIdChar) :=
    ⟨hid, fun _ hc => List.all_eq_true.mp List.all_takeWhile _ hc⟩
  refine ⟨_, IsMarker.intro hlead huser hcode hword hname hlast, ?_⟩
  have hgap : afterGap = afterGap.takeWhile isIdChar ++ (last ++ (['*', '/'] ++ rest)) := by
    rw [← hEnd, ← htext₅, List.takeWhile_append_dropWhile]
  calc text = ['/', '*'] ++ (lead ++ (['U', 'S', 'E', 'R'] ++ (user ++ (['C', 'O', 'D', 'E'] ++
        (code ++ (kind.word ++ (word ++ afterGap))))))) := by
        rw [hsign, htext₁, hUser, htext₂, hCode, htext₃, hKind, htext₄]
    _ = _ := by
        simp only [List.append_assoc]
        rw [← hgap]

theorem exists_isMarker_of_markerAt? {kind : Kind} {text id rest : List Char}
    (h : markerAt? text = some (kind, id, rest)) :
    ∃ mark, IsMarker kind id mark ∧ text = mark ++ rest := by
  unfold markerAt? at h
  -- Nothing is read as soon as one part is missing, so all of them are there.
  cases hsign : after? ['/', '*'] text with
  | none => simp [hsign] at h
  | some afterSign =>
    simp only [hsign] at h
    cases hUser : after? ['U', 'S', 'E', 'R'] (skipBlanks afterSign) with
    | none => simp [hUser] at h
    | some afterUser =>
      simp only [hUser] at h
      cases hCode : (skipSomeBlanks? afterUser).bind (after? ['C', 'O', 'D', 'E']) with
      | none => simp [hCode] at h
      | some afterCode =>
        simp only [hCode] at h
        cases hKind : (skipSomeBlanks? afterCode).bind kindWord? with
        | none => simp [hKind] at h
        | some read =>
          obtain ⟨kind', afterWord⟩ := read
          simp only [hKind] at h
          cases hName : skipSomeBlanks? afterWord with
          | none => simp [hName] at h
          | some afterGap =>
            simp only [hName] at h
            cases hEnd : after? ['*', '/'] (skipBlanks (afterGap.dropWhile isIdChar)) with
            | none => simp [hEnd] at h
            | some after =>
              by_cases hempty : (afterGap.takeWhile isIdChar).isEmpty = true
              · simp [hempty] at h
              · simp only [hempty, hEnd, Bool.false_eq_true, if_false, Option.some.injEq,
                  Prod.mk.injEq] at h
                obtain ⟨rfl, rfl, rfl⟩ := h
                exact isMarker_of_parts hsign hUser hCode hKind hName (by simpa using hempty) hEnd

/-- **Reading is exact.** -/
theorem markerAt?_eq_some_iff {kind : Kind} {text id rest : List Char} :
    markerAt? text = some (kind, id, rest) ↔
      ∃ mark, IsMarker kind id mark ∧ text = mark ++ rest :=
  ⟨exists_isMarker_of_markerAt?, fun ⟨_, hm, ht⟩ => ht ▸ markerAt?_append hm⟩

/-! ## The characters of a marker -/

namespace IsMarker

variable {kind : Kind} {id mark : List Char}

/-- Between the comment signs there are blanks and characters of names only. -/
theorem exists_inner (h : IsMarker kind id mark) :
    ∃ inner, mark = '/' :: '*' :: (inner ++ ['*', '/']) ∧ ∀ c ∈ inner, isInner c = true := by
  obtain ⟨hlead, huser, hcode, hword, hid, hlast⟩ := h
  rename_i lead user code word last
  refine ⟨lead ++ (['U', 'S', 'E', 'R'] ++ (user ++ (['C', 'O', 'D', 'E'] ++ (code ++
    (kind.word ++ (word ++ (id ++ last))))))), by simp [List.append_assoc], ?_⟩
  have hblank : ∀ {text : List Char}, Blanks text → ∀ c ∈ text, isInner c = true :=
    fun ht c hc => by simp [isInner, ht c hc]
  have hfixed : ∀ c ∈ ['U', 'S', 'E', 'R', 'C', 'O', 'D', 'E'], isInner c = true :=
    List.all_eq_true.mp (by decide)
  intro c hc
  simp only [List.mem_append] at hc
  rcases hc with hc | hc | hc | hc | hc | hc | hc | hc | hc
  · exact hblank hlead c hc
  · exact hfixed c (List.mem_append_left ['C', 'O', 'D', 'E'] hc)
  · exact hblank huser.2 c hc
  · exact hfixed c (List.mem_append_right ['U', 'S', 'E', 'R'] hc)
  · exact hblank hcode.2 c hc
  · exact isInner_of_mem_word hc
  · exact hblank hword.2 c hc
  · simp [isInner, hid.2 c hc]
  · exact hblank hlast c hc

theorem ne_nil (h : IsMarker kind id mark) : mark ≠ [] := by
  obtain ⟨inner, rfl, -⟩ := h.exists_inner
  simp

/-- A marker begins with the two characters of a comment sign. -/
theorem head_eq (h : IsMarker kind id mark) : ∃ rest, mark = '/' :: '*' :: rest := by
  obtain ⟨inner, rfl, -⟩ := h.exists_inner
  exact ⟨_, rfl⟩

/-- The front part of a marker begins with a slash. -/
theorem front_eq {front back : List Char} (h : IsMarker kind id (front ++ back))
    (hne : front ≠ []) : ∃ rest, front = '/' :: rest := by
  obtain ⟨rest, hrest⟩ := h.head_eq
  obtain ⟨c, cs, rfl⟩ := List.exists_cons_of_ne_nil hne
  exact ⟨cs, by rw [(List.cons.inj hrest).1]⟩

theorem getLast?_eq (h : IsMarker kind id mark) : mark.getLast? = some '/' := by
  obtain ⟨inner, rfl, -⟩ := h.exists_inner
  simp [List.getLast?_cons]

theorem mem_cases (h : IsMarker kind id mark) {c : Char} (hc : c ∈ mark) :
    c = '/' ∨ c = '*' ∨ isInner c = true := by
  obtain ⟨inner, rfl, hinner⟩ := h.exists_inner
  simp only [List.mem_cons, List.mem_append, List.not_mem_nil, or_false] at hc
  rcases hc with rfl | rfl | hc | rfl | rfl
  · exact Or.inl rfl
  · exact Or.inr (Or.inl rfl)
  · exact Or.inr (Or.inr (hinner c hc))
  · exact Or.inr (Or.inl rfl)
  · exact Or.inl rfl

/-- A slash that is not the first character of a marker is the last one, behind a star. -/
theorem slash_split {before after : List Char} (h : IsMarker kind id (before ++ '/' :: after))
    (hne : before ≠ []) : after = [] ∧ before.getLast? = some '*' := by
  obtain ⟨inner, hmark, hinner⟩ := h.exists_inner
  have hslash : '/' ∉ inner := fun hm => by
    have := hinner _ hm
    rw [isInner_slash] at this
    exact absurd this (by simp)
  match before, hne with
  | [b], _ => simp at hmark
  | b :: b' :: bs, _ =>
    simp only [List.cons_append, List.cons.injEq] at hmark
    obtain ⟨-, rfl, hmark⟩ := hmark
    rcases List.append_eq_append_iff.mp hmark with ⟨as, hi, hrest⟩ | ⟨as, hbs, hrest⟩
    · -- The slash would lie between the comment signs.
      cases as with
      | nil => simp at hrest
      | cons a as =>
        simp only [List.cons_append, List.cons.injEq] at hrest
        obtain ⟨rfl, -⟩ := hrest
        exact absurd (hi ▸ List.mem_append_right bs List.mem_cons_self) hslash
    · match as with
      | [] => simp at hrest
      | [a] =>
        simp only [List.cons_append, List.nil_append, List.cons.injEq] at hrest
        obtain ⟨rfl, -, rfl⟩ := hrest
        subst hbs
        simp [List.getLast?_cons]
      | a :: a' :: as => simp at hrest

end IsMarker

end GuardedUi.Guard
