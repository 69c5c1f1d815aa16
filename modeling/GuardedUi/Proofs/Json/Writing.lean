import GuardedUi.Proofs.Json.Reading

/-!
# `Proofs/Json/Writing` — what was written is read back

A written value goes through the two machines of the reader. Each of them takes the whole value and
leaves what stands behind it as it is: the lexer makes the tokens of the value (`scanFrom_write`), the
parser of these its tree (`run_tokens`).

> **A written value has a tree** (`parse?_write`), **and if its numbers are read back, so is the
> value** (`ofTree?_tree`).

Texts always come back. Numbers need not: a numeral of a double is the shortest one, which denotes
the double exactly, but reading it is double arithmetic (`Literal.number?`) and may miss. So it is
said of each number (`Number.ReadsBack`).
-/

set_option autoImplicit false

namespace GuardedUi.Json

/-- The numeral of the number has the number as its value. -/
def Number.ReadsBack (n : Number) : Prop :=
  (Literal.ofChars? n.write).bind Literal.number? = some n

instance (n : Number) : Decidable n.ReadsBack :=
  inferInstanceAs (Decidable ((Literal.ofChars? n.write).bind Literal.number? = some n))

/-! ## Texts -/

namespace Token

theorem hexDigit?_hexDigit {n : Nat} (h : n < 16) : hexDigit? (Value.hexDigit n) = some n := by
  have hall : ∀ n < 16, hexDigit? (Value.hexDigit n) = some n := by decide
  exact hall n h

theorem pushUnit_of_lt (t : Partial) {c : Char} (h : c.toNat < 0x20) :
    t.pushUnit c.toNat = t.push c := by
  rw [Partial.pushUnit, if_neg (by omega), if_neg (by omega), Char.ofNat_toNat]

/-- A written character is read back as one character. -/
theorem scanFrom_writeChar (t : Partial) (c : Char) (rest : List Char) :
    scanFrom (.text t) (Value.writeChar c ++ rest) = scanFrom (.text (t.push c)) rest := by
  have hescape : ∀ {letter e : Char}, letter ≠ 'u' → escaped? letter = some e →
      scanFrom (.text t) ('\\' :: letter :: rest) = scanFrom (.text (t.push e)) rest := by
    intro letter e hu he
    simp [scanFrom, step, hu, he]
  unfold Value.writeChar
  split
  · rename_i hc
    subst hc
    exact hescape (by decide) rfl
  split
  · rename_i hc
    subst hc
    exact hescape (by decide) rfl
  split
  · rename_i hc
    subst hc
    exact hescape (by decide) rfl
  split
  · rename_i hc
    subst hc
    exact hescape (by decide) rfl
  split
  · rename_i hc
    subst hc
    exact hescape (by decide) rfl
  split
  · rename_i hc
    subst hc
    exact hescape (by decide) rfl
  split
  · rename_i hc
    subst hc
    exact hescape (by decide) rfl
  split
  · -- Any other control character has its number in hexadecimal digits.
    rename_i hsmall
    have hhigh := hexDigit?_hexDigit (n := c.toNat / 16) (by omega)
    have hlow := hexDigit?_hexDigit (n := c.toNat % 16) (by omega)
    have hzero : hexDigit? '0' = some 0 := by decide
    have hvalue : 16 * (c.toNat / 16) + c.toNat % 16 = c.toNat := Nat.div_add_mod _ _
    simp [scanFrom, step, hhigh, hlow, hzero, hvalue, pushUnit_of_lt t hsmall]
  · rename_i hquote hbackslash _ _ _ _ _ hlarge
    simp [scanFrom, step, hquote, hbackslash, hlarge]

theorem scanFrom_writeChars (rev chars rest : List Char) :
    scanFrom (.text ⟨rev, none, true⟩) (chars.flatMap Value.writeChar ++ rest) =
      scanFrom (.text ⟨chars.reverse ++ rev, none, true⟩) rest := by
  induction chars generalizing rev with
  | nil => rfl
  | cons c chars ih =>
    rw [List.flatMap_cons, List.append_assoc, scanFrom_writeChar, Partial.push]
    simpa using ih (c :: rev)

theorem scanFrom_writeText (content : String) (rest : List Char) :
    scanFrom .idle (Value.writeText content ++ rest) =
      (scanFrom .idle rest).map ([.text (some content)] ++ ·) := by
  have hopen : ∀ text, scanFrom .idle ('"' :: text) = scanFrom (.text .empty) text := by
    intro text
    simp [scanFrom, step, start, isSpace]
  have hclose : scanFrom (.text ⟨content.toList.reverse ++ [], none, true⟩) ('"' :: rest) =
      (scanFrom .idle rest).map ([.text (some content)] ++ ·) := by
    simp [scanFrom, step, Partial.content]
  rw [Value.writeText, List.cons_append, List.cons_append, hopen, List.append_assoc, Partial.empty,
    scanFrom_writeChars, List.singleton_append, hclose]

/-! ## Words -/

/-- What stands behind a value does not go on with a word. -/
def Breaks (rest : List Char) : Prop :=
  ∀ c ∈ rest.head?, isWordChar c = false

theorem scanFrom_word {word rest : List Char} (hword : ∀ c ∈ word, isWordChar c = true)
    (hrest : Breaks rest) (rev : List Char) :
    scanFrom (.word rev) (word ++ rest) =
      (scanFrom .idle rest).map ([.word (rev.reverse ++ word)] ++ ·) := by
  induction word generalizing rev with
  | nil =>
    rw [List.nil_append, List.append_nil]
    cases rest with
    | nil => rfl
    | cons c rest =>
      have hc : isWordChar c = false := hrest c rfl
      simp only [scanFrom, step, hc, Bool.false_eq_true, if_false]
      cases start c with
      | none => rfl
      | some next => cases hscan : scanFrom next.1 rest <;> simp [hscan]
  | cons c word ih =>
    obtain ⟨hc, hword⟩ := List.forall_mem_cons.mp hword
    have hnext := ih hword (c :: rev)
    simp only [List.reverse_cons, List.append_assoc, List.singleton_append] at hnext
    simp only [List.cons_append, scanFrom, step, hc, if_true, List.nil_append, hnext]
    cases scanFrom .idle rest <;> rfl

theorem scanFrom_idle_word {word rest : List Char} (hne : word ≠ [])
    (hword : ∀ c ∈ word, isWordChar c = true) (hrest : Breaks rest) :
    scanFrom .idle (word ++ rest) = (scanFrom .idle rest).map ([.word word] ++ ·) := by
  cases word with
  | nil => exact absurd rfl hne
  | cons c word =>
    obtain ⟨hc, hword⟩ := List.forall_mem_cons.mp hword
    have hstart : start c = some (.word [c], []) := by
      have hspace : isSpace c = false := by
        by_contra hs
        simp only [isSpace, Bool.not_eq_false, Bool.or_eq_true, beq_iff_eq] at hs
        rcases hs with ((rfl | rfl) | rfl) | rfl <;> exact absurd hc (by decide)
      have hquote : c ≠ '"' := by
        rintro rfl
        exact absurd hc (by decide)
      simp [start, hspace, hquote, hc]
    have hnext := scanFrom_word hword hrest [c]
    simp only [List.cons_append, scanFrom, step, hstart, hnext]
    cases scanFrom .idle rest <;> rfl

/-- A mark between values. -/
theorem scanFrom_mark (token : Token) {c : Char} (h : start c = some (.idle, [token]))
    (rest : List Char) :
    scanFrom .idle (c :: rest) = (scanFrom .idle rest).map (token :: ·) := by
  simp [scanFrom, step, h]

end Token

/-! ## Tokens and trees -/

namespace Value

/-- Every number is written as a literal. -/
inductive Legible : Value → Prop where
  | null : Legible .null
  | bool {value : Bool} : Legible (.bool value)
  | number {n : Number} {l : Literal} (h : Literal.ofChars? n.write = some l) : Legible (.number n)
  | text {content : String} : Legible (.text content)
  | list {items : List Value} (h : ∀ item ∈ items, Legible item) : Legible (.list items)
  | record {fields : List (String × Value)} (h : ∀ field ∈ fields, Legible field.2) :
    Legible (.record fields)

theorem legible_fieldIf {α : Type} {name : String} {value : Option α} {write : α → Value}
    (h : ∀ a ∈ value, (write a).Legible) :
    ∀ field ∈ fieldIf name value write, field.2.Legible := by
  cases value with
  | none => exact fun field hfield => absurd hfield List.not_mem_nil
  | some a => exact List.forall_mem_singleton.mpr (h a rfl)

mutual

/-- The tokens of the text of a value. -/
def tokens : Value → List Token
  | .list items => .openList :: itemTokens items ++ [.closeList]
  | .record fields => .openRecord :: fieldTokens fields ++ [.closeRecord]
  | .text content => [.text (some content)]
  | v => [.word v.write]

def itemTokens : List Value → List Token
  | [] => []
  | [item] => tokens item
  | item :: rest => tokens item ++ .comma :: itemTokens rest

def fieldTokens : List (String × Value) → List Token
  | [] => []
  | [(name, value)] => .text (some name) :: .colon :: tokens value
  | (name, value) :: rest =>
    .text (some name) :: .colon :: tokens value ++ .comma :: fieldTokens rest

end

mutual

/-- The tree of the text of a value. -/
def tree : Value → Tree
  | .null => .null
  | .bool value => .bool value
  | .number n => .number ((Literal.ofChars? n.write).getD ⟨false, 0, 0, true⟩)
  | .text content => .text (some content)
  | .list items => .list (trees items)
  | .record fields => .record (fieldTrees fields)

def trees : List Value → List Tree
  | [] => []
  | item :: rest => tree item :: trees rest

def fieldTrees : List (String × Value) → List (Content × Tree)
  | [] => []
  | (name, value) :: rest => (some name, tree value) :: fieldTrees rest

end

theorem fieldTrees_append (a b : List (String × Value)) :
    fieldTrees (a ++ b) = fieldTrees a ++ fieldTrees b := by
  induction a with
  | nil => rfl
  | cons field rest ih =>
    obtain ⟨name, value⟩ := field
    rw [List.cons_append, fieldTrees, fieldTrees, ih]
    rfl

/-! ## The lexer -/

section

open Token

theorem breaks_cons (c : Char) (h : isWordChar c = false) (rest : List Char) :
    Breaks (c :: rest) := by
  intro d hd
  obtain rfl := Option.some.inj hd
  exact h

mutual

/-- **The lexer makes the tokens of a written value**, whatever stands behind it. -/
theorem scanFrom_write {rest : List Char} (hrest : Breaks rest) : ∀ {v : Value}, v.Legible →
    scanFrom .idle (v.write ++ rest) = (scanFrom .idle rest).map (v.tokens ++ ·)
  | .null, _ => scanFrom_idle_word (by decide) (List.all_eq_true.mp (by decide)) hrest
  | .bool true, _ => scanFrom_idle_word (by decide) (List.all_eq_true.mp (by decide)) hrest
  | .bool false, _ => scanFrom_idle_word (by decide) (List.all_eq_true.mp (by decide)) hrest
  | .number n, .number h => by
    obtain ⟨hne, hword⟩ := Literal.isWordChar_of_ofChars? h
    exact scanFrom_idle_word hne hword hrest
  | .text content, _ => scanFrom_writeText content rest
  | .list items, .list h => by
    have hitems := scanFrom_writeItems (breaks_cons ']' (by decide) rest) h
    rw [scanFrom_mark .closeList (by decide)] at hitems
    simp only [write, tokens, List.cons_append, List.append_assoc, List.nil_append]
    rw [scanFrom_mark .openList (by decide), hitems]
    simp [Option.map_map, Function.comp_def]
  | .record fields, .record h => by
    have hfields := scanFrom_writeFields (breaks_cons '\x7d' (by decide) rest) h
    rw [scanFrom_mark .closeRecord (by decide)] at hfields
    simp only [write, tokens, List.cons_append, List.append_assoc, List.nil_append]
    rw [scanFrom_mark .openRecord (by decide), hfields]
    simp [Option.map_map, Function.comp_def]

theorem scanFrom_writeItems {rest : List Char} (hrest : Breaks rest) :
    ∀ {items : List Value}, (∀ item ∈ items, item.Legible) →
      scanFrom .idle (writeItems items ++ rest) =
        (scanFrom .idle rest).map (itemTokens items ++ ·)
  | [], _ => by simp [writeItems, itemTokens]
  | [item], h => by
    rw [writeItems, itemTokens]
    exact scanFrom_write hrest (h item List.mem_cons_self)
  | item :: next :: others, h => by
    obtain ⟨hitem, hothers⟩ := List.forall_mem_cons.mp h
    have hfirst := scanFrom_write
      (breaks_cons ',' (by decide) (writeItems (next :: others) ++ rest)) hitem
    rw [scanFrom_mark .comma (by decide), scanFrom_writeItems hrest hothers] at hfirst
    simp only [writeItems, itemTokens, List.cons_append, List.append_assoc]
    rw [hfirst]
    simp [Option.map_map, Function.comp_def]

theorem scanFrom_writeFields {rest : List Char} (hrest : Breaks rest) :
    ∀ {fields : List (String × Value)}, (∀ field ∈ fields, field.2.Legible) →
      scanFrom .idle (writeFields fields ++ rest) =
        (scanFrom .idle rest).map (fieldTokens fields ++ ·)
  | [], _ => by simp [writeFields, fieldTokens]
  | [(name, value)], h => by
    have hvalue := scanFrom_write hrest (h (name, value) List.mem_cons_self)
    simp only [writeFields, fieldTokens, List.cons_append, List.append_assoc]
    rw [scanFrom_writeText, scanFrom_mark .colon (by decide), hvalue]
    simp [Option.map_map, Function.comp_def]
  | (name, value) :: next :: others, h => by
    obtain ⟨hfield, hothers⟩ := List.forall_mem_cons.mp h
    have hfirst := scanFrom_write
      (breaks_cons ',' (by decide) (writeFields (next :: others) ++ rest)) hfield
    rw [scanFrom_mark .comma (by decide), scanFrom_writeFields hrest hothers] at hfirst
    simp only [writeFields, fieldTokens, List.cons_append, List.append_assoc]
    rw [scanFrom_writeText, scanFrom_mark .colon (by decide), hfirst]
    simp [Option.map_map, Function.comp_def]

end

end

/-! ## The parser -/

section

open Json.Tree

theorem ofWord?_of_ofChars? {word : List Char} {l : Literal} (h : Literal.ofChars? word = some l) :
    ofWord? word = some (.number l) := by
  have hne : ∀ other : List Char, Literal.ofChars? other = none → word ≠ other := by
    rintro other hnone rfl
    exact absurd (hnone.symm.trans h) (by simp)
  rw [ofWord?, if_neg (hne _ (by decide)), if_neg (hne _ (by decide)), if_neg (hne _ (by decide)),
    h]
  rfl

theorem run_word {word : List Char} {t : Tree} (h : ofWord? word = some t) (stack : List Frame)
    (mayClose : Bool) (rest : List Token) :
    run stack (.value mayClose) (.word word :: rest) = run stack (.after t) rest := by
  simp [run, step, h]

theorem run_name (content : Content) (stack : List Frame) (rev : List (Content × Tree))
    (mayClose : Bool) (rest : List Token) :
    run stack (.name rev mayClose) (.text content :: .colon :: rest) =
      run (.record rev content :: stack) (.value false) rest := by
  simp [run, step]

mutual

/-- **The parser makes the tree of the tokens of a value**, whatever stands behind them. -/
theorem run_tokens (stack : List Frame) (mayClose : Bool) (rest : List Token) :
    ∀ {v : Value}, v.Legible →
      run stack (.value mayClose) (v.tokens ++ rest) = run stack (.after v.tree) rest
  | .null, _ => run_word rfl stack mayClose rest
  | .bool true, _ => run_word rfl stack mayClose rest
  | .bool false, _ => run_word rfl stack mayClose rest
  | .number n, .number h => by
    rw [tree, h, Option.getD_some]
    exact run_word (ofWord?_of_ofChars? h) stack mayClose rest
  | .text content, _ => by simp [tokens, tree, run, step]
  | .list [], _ => by simp [tokens, itemTokens, tree, trees, run, step]
  | .list (item :: items), .list h => by
    have hitems := run_itemTokens stack [] true rest (List.cons_ne_nil item items) h
    simpa [tokens, tree, run, step] using hitems
  | .record [], _ => by simp [tokens, fieldTokens, tree, fieldTrees, run, step]
  | .record (field :: fields), .record h => by
    have hfields := run_fieldTokens stack [] true rest (List.cons_ne_nil field fields) h
    simpa [tokens, tree, run, step] using hfields

theorem run_itemTokens (stack : List Frame) (rev : List Tree) (mayClose : Bool)
    (rest : List Token) : ∀ {items : List Value}, items ≠ [] → (∀ item ∈ items, item.Legible) →
      run (.list rev :: stack) (.value mayClose) (itemTokens items ++ .closeList :: rest) =
        run stack (.after (.list (rev.reverse ++ trees items))) rest
  | [], hne, _ => absurd rfl hne
  | [item], _, h => by
    rw [itemTokens, run_tokens (.list rev :: stack) mayClose _ (h item List.mem_cons_self)]
    simp [run, step, trees]
  | item :: next :: others, _, h => by
    obtain ⟨hitem, hothers⟩ := List.forall_mem_cons.mp h
    have hrest := run_itemTokens stack (item.tree :: rev) false rest
      (List.cons_ne_nil next others) hothers
    simp only [itemTokens, List.append_assoc, List.cons_append]
    rw [run_tokens _ _ _ hitem]
    simpa [run, step, trees] using hrest

theorem run_fieldTokens (stack : List Frame) (rev : List (Content × Tree)) (mayClose : Bool)
    (rest : List Token) : ∀ {fields : List (String × Value)}, fields ≠ [] →
      (∀ field ∈ fields, field.2.Legible) →
      run stack (.name rev mayClose) (fieldTokens fields ++ .closeRecord :: rest) =
        run stack (.after (.record (rev.reverse ++ fieldTrees fields))) rest
  | [], hne, _ => absurd rfl hne
  | [(name, value)], _, h => by
    simp only [fieldTokens, List.cons_append]
    rw [run_name, run_tokens _ _ _ (h (name, value) List.mem_cons_self)]
    simp [run, step, fieldTrees]
  | (name, value) :: next :: others, _, h => by
    obtain ⟨hfield, hothers⟩ := List.forall_mem_cons.mp h
    have hrest := run_fieldTokens stack ((some name, value.tree) :: rev) false rest
      (List.cons_ne_nil next others) hothers
    simp only [fieldTokens, List.append_assoc, List.cons_append]
    rw [run_name, run_tokens _ _ _ hfield]
    simpa [run, step, fieldTrees] using hrest

end

/-- **A written value has a tree.** -/
theorem parse?_write {v : Value} (h : v.Legible) : Tree.parse? v.write = some v.tree := by
  have hscan : Token.scan v.write = some v.tokens := by
    have hbreaks : Token.Breaks [] := fun c hc => by simp at hc
    have hend := scanFrom_write hbreaks h
    simpa [Token.scan, Token.scanFrom, Token.finish] using hend
  have hrun := run_tokens [] false [] h
  rw [List.append_nil] at hrun
  rw [Tree.parse?, hscan, Option.bind_some, ofTokens?, hrun]
  rfl

end

/-! ## Values that come back -/

/-- A value that is written so that it comes back. -/
def Faithful (depth : Nat) (v : Value) : Prop :=
  v.WellFormed Number.ReadsBack depth

theorem Faithful.legible {depth : Nat} {v : Value} (h : v.Faithful depth) : v.Legible := by
  induction h with
  | null => exact .null
  | bool => exact .bool
  | number h =>
    obtain ⟨l, hl, -⟩ := Option.bind_eq_some_iff.mp h
    exact .number hl
  | text => exact .text
  | list _ ih => exact .list ih
  | record _ _ ih => exact .record ih

mutual

/-- **The tree of a faithful value has it as its value.** -/
theorem ofTree?_tree {depth : Nat} : ∀ {v : Value}, v.Faithful depth → ofTree? depth v.tree = some v
  | .null, _ => by rw [tree, ofTree?]
  | .bool value, _ => by rw [tree, ofTree?]
  | .number n, .number h => by
    obtain ⟨l, hl, hn⟩ := Option.bind_eq_some_iff.mp h
    rw [tree, ofTree?, hl, Option.getD_some, hn]
    rfl
  | .text content, _ => by
    rw [tree, ofTree?]
    rfl
  | .list items, .list h => by
    rw [tree, ofTree?, ofItems?_trees h]
    rfl
  | .record fields, .record hsorted h => by
    rw [tree, ofTree?, ofFields?_fieldTrees h, Option.map_some, sortFields_eq_self hsorted]

theorem ofItems?_trees {depth : Nat} : ∀ {items : List Value},
    (∀ item ∈ items, item.Faithful depth) → ofItems? depth (trees items) = some items
  | [], _ => by rw [trees, ofItems?]
  | item :: rest, h => by
    obtain ⟨hitem, hrest⟩ := List.forall_mem_cons.mp h
    simp only [trees, ofItems?, ofTree?_tree hitem, ofItems?_trees hrest]

theorem ofFields?_fieldTrees {depth : Nat} : ∀ {fields : List (String × Value)},
    (∀ field ∈ fields, field.2.Faithful depth) →
      ofFields? depth (fieldTrees fields) = some fields
  | [], _ => by rw [fieldTrees, ofFields?]
  | (name, value) :: rest, h => by
    obtain ⟨hfield, hrest⟩ := List.forall_mem_cons.mp h
    simp only [fieldTrees, ofFields?, ofTree?_tree hfield, ofFields?_fieldTrees hrest]

end

/-- **A faithful value is read back from its text.** -/
theorem Faithful.parse?_write {v : Value} (h : v.Faithful Tree.nestingLimit) :
    parse? v.write = some v := by
  rw [parse?, Value.parse?_write h.legible, Option.bind_some, ofTree?_tree h]

end Value

end GuardedUi.Json
