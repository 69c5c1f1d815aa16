import GuardedUi.Disk.Path

/-!
# `Proofs/Disk/Path` — paths inside a folder

What is known of a path is known of its parts: joining a name to a path puts it behind the parts of
the path, without a slash that is already there (`parts_child`). The folders above a path are spelled
as its own beginnings (`eq_or_prefix_of_mem_parents`), and a beginning of a path can be followed
whenever the path can (`isUsable_of_append`): it is shorter, and has no other characters.

The generator joins fixed names only. They are `isPlain`: such a part means an entry of the folder and
nothing else.
-/

set_option autoImplicit false

namespace GuardedUi.Path

/-- Whether a part of a path means an entry of the folder that the path has reached. -/
def isPlain (name : String) : Bool :=
  !isIdle name && name != ".." && isName name

section Plain

variable {name : String}

theorem not_isIdle_of_isPlain (h : isPlain name = true) : isIdle name = false := by
  simp only [isPlain, Bool.and_eq_true, Bool.not_eq_true'] at h
  exact h.1.1

theorem ne_dots_of_isPlain (h : isPlain name = true) : name ≠ ".." := by
  simp only [isPlain, Bool.and_eq_true, bne_iff_ne] at h
  exact h.1.2

theorem isName_of_isPlain (h : isPlain name = true) : isName name = true := by
  simp only [isPlain, Bool.and_eq_true] at h
  exact h.2

theorem ne_empty_of_isPlain (h : isPlain name = true) : name ≠ "" := by
  rintro rfl
  exact absurd (not_isIdle_of_isPlain h) (by decide)

theorem ne_dot_of_isPlain (h : isPlain name = true) : name ≠ "." := by
  rintro rfl
  exact absurd (not_isIdle_of_isPlain h) (by decide)

end Plain

/-! ## Names joined to a path -/

@[simp] theorem parts_child (p : Path) (name : String) : (p.child name).parts = p.stem ++ [name] :=
  rfl

/-- The stem lacks at most a slash at the end. -/
theorem parts_cases (p : Path) : p.parts = p.stem ∨ p.parts = p.stem ++ [""] := by
  rw [stem]
  split
  · rename_i hlast
    obtain ⟨front, hfront⟩ := List.getLast?_eq_some_iff.mp hlast
    exact Or.inr (by rw [hfront, List.dropLast_concat])
  · exact Or.inl rfl

theorem stem_child {p : Path} {name : String} (h : isPlain name = true) :
    (p.child name).stem = p.stem ++ [name] := by
  rw [stem, parts_child, if_neg]
  simpa using ne_empty_of_isPlain h

theorem split?_child {p : Path} {name : String} (h : isPlain name = true) :
    (p.child name).split? = some (p.stem, name) := by
  rw [split?, parts_child, List.reverse_concat,
    List.dropWhile_cons_of_neg (by simpa using ne_empty_of_isPlain h)]
  simp

theorem parts_of_split? {p : Path} {parts : List String} {name : String}
    (h : p.split? = some (parts, name)) :
    name ≠ "" ∧ ∃ slashes, p.parts = parts ++ name :: slashes := by
  rw [split?] at h
  cases hdrop : p.parts.reverse.dropWhile (· == "") with
  | nil => simp [hdrop] at h
  | cons last rest =>
    simp only [hdrop, Option.some.injEq, Prod.mk.injEq] at h
    obtain ⟨rfl, rfl⟩ := h
    refine ⟨?_, (p.parts.reverse.takeWhile (· == "")).reverse, ?_⟩
    · have hhead := List.head?_dropWhile_not (· == "") p.parts.reverse
      rw [hdrop] at hhead
      simpa using hhead
    · have hall := List.takeWhile_append_dropWhile (p := (· == "")) (l := p.parts.reverse)
      rw [hdrop] at hall
      have hparts := congrArg List.reverse hall
      rw [List.reverse_reverse, List.reverse_append, List.reverse_cons, List.append_assoc] at hparts
      exact hparts.symm

theorem endsInSlash_child {p : Path} {name : String} (h : isPlain name = true) :
    (p.child name).endsInSlash = false := by
  rw [endsInSlash, parts_child, List.getLast?_concat]
  simpa using ne_empty_of_isPlain h

/-! ## The folders above a path -/

theorem dropIdle_concat {parts : List String} {name : String} (h : isIdle name = false) :
    dropIdle (parts ++ [name]) = parts ++ [name] := by
  rw [dropIdle, List.reverse_concat, List.dropWhile_cons_of_neg (by simp [h]),
    ← List.reverse_concat, List.reverse_reverse]

theorem dropIdle_isPrefix (parts : List String) : dropIdle parts <+: parts := by
  have h : dropIdle parts ++ (parts.reverse.takeWhile isIdle).reverse = parts := by
    rw [dropIdle, ← List.reverse_append, List.takeWhile_append_dropWhile, List.reverse_reverse]
  exact ⟨_, h⟩

theorem parent?_child_child {p : Path} {first second : String} (hfirst : isPlain first = true)
    (hsecond : isPlain second = true) :
    ((p.child first).child second).parent? = some (p.child first) := by
  have hlast : dropIdle ((p.child first).child second).parts =
      p.stem ++ [first] ++ [second] := by
    rw [parts_child, stem_child hfirst, dropIdle_concat (not_isIdle_of_isPlain hsecond)]
  have hfront : dropIdle (p.stem ++ [first] ++ [second]).dropLast = p.stem ++ [first] := by
    rw [List.dropLast_concat, dropIdle_concat (not_isIdle_of_isPlain hfirst)]
  obtain ⟨head, tail, hparts⟩ : ∃ head tail, p.stem ++ [first] = head :: tail :=
    List.exists_cons_of_ne_nil (by simp)
  have hchild : p.child first = ⟨head :: tail⟩ := congrArg Path.mk hparts
  rw [hparts] at hlast hfront
  rw [List.cons_append] at hlast hfront
  rw [parent?, hlast, hchild]
  simp only [hfront]

/-- The folder that a path stands in is the root, or is spelled as a beginning of the path. -/
theorem eq_or_prefix_of_parent? {p q : Path} (h : p.parent? = some q) :
    q = ⟨[""]⟩ ∨ ∃ rest, rest ≠ [] ∧ p.parts = q.parts ++ rest := by
  obtain ⟨idle, hidle⟩ := dropIdle_isPrefix p.parts
  rw [parent?] at h
  cases hparts : dropIdle p.parts with
  | nil => simp [hparts] at h
  | cons first others =>
    rw [hparts] at h
    obtain ⟨idle', hidle'⟩ := dropIdle_isPrefix (first :: others).dropLast
    cases hfront : dropIdle (first :: others).dropLast with
    | nil =>
      simp only [hfront, Option.some.injEq] at h
      exact Or.inl h.symm
    | cons head tail =>
      simp only [hfront, Option.some.injEq] at h
      subst h
      refine Or.inr ⟨idle' ++ ((first :: others).getLast (List.cons_ne_nil _ _) :: idle),
        by simp, ?_⟩
      calc p.parts = (first :: others) ++ idle := by rw [← hidle, hparts]
        _ = (first :: others).dropLast ++ [(first :: others).getLast (List.cons_ne_nil _ _)] ++
            idle := by rw [List.dropLast_concat_getLast]
        _ = _ := by
          rw [← hidle', hfront]
          simp

theorem parents_slash (fuel : Nat) : parents fuel ⟨[""]⟩ = [] := by
  cases fuel <;> rfl

/-- The folders above a path are the root and folders that are spelled as its beginnings. -/
theorem eq_or_prefix_of_mem_parents {fuel : Nat} {p q : Path} (h : q ∈ parents fuel p) :
    q = ⟨[""]⟩ ∨ ∃ rest, rest ≠ [] ∧ p.parts = q.parts ++ rest := by
  induction fuel generalizing p with
  | zero => simp [parents] at h
  | succ fuel ih =>
    rw [parents] at h
    cases hparent : p.parent? with
    | none => simp [hparent] at h
    | some parent =>
      rw [hparent] at h
      have hfirst := eq_or_prefix_of_parent? hparent
      rcases List.mem_cons.mp h with rfl | h
      · exact hfirst
      · rcases hfirst with rfl | ⟨rest, hne, hrest⟩
        · rw [parents_slash] at h
          exact absurd h List.not_mem_nil
        · refine (ih h).imp_right fun ⟨rest', hne', hrest'⟩ => ⟨rest' ++ rest, ?_, ?_⟩
          · simp [hne]
          · rw [hrest, hrest', List.append_assoc]

/-! ## Paths that can be followed -/

theorem utf8ByteSize_joinParts_concat (parts : List String) (name : String) :
    (joinParts (parts ++ [name])).utf8ByteSize =
      (joinParts parts).utf8ByteSize + (if parts = [] then 0 else 1) + name.utf8ByteSize := by
  have hslash : "/".utf8ByteSize = 1 := by decide
  induction parts with
  | nil => simp [joinParts]
  | cons first rest ih =>
    cases rest with
    | nil =>
      simp only [List.cons_append, List.nil_append, joinParts, String.utf8ByteSize_append, hslash]
      simp
    | cons second rest =>
      simp only [List.cons_append, joinParts, String.utf8ByteSize_append, hslash, reduceCtorEq,
        if_false] at ih ⊢
      omega

theorem isUsable_iff {p : Path} : p.isUsable = true ↔
    1 + (joinParts p.parts).utf8ByteSize ≤ longestPath ∧
      ∀ part ∈ p.parts, '\x00' ∉ part.toList := by
  have hslash : "/".utf8ByteSize = 1 := by decide
  simp [isUsable, text, String.utf8ByteSize_append, hslash]

/-- The beginnings of a path can be followed if it can. -/
theorem isUsable_of_append {front back : List String} (h : (⟨front ++ back⟩ : Path).isUsable = true) :
    (⟨front⟩ : Path).isUsable = true := by
  induction back generalizing front with
  | nil => rwa [List.append_nil] at h
  | cons name rest ih =>
    have hlonger : (⟨front ++ [name]⟩ : Path).isUsable = true := by
      refine ih ?_
      rwa [List.append_assoc]
    rw [isUsable_iff, utf8ByteSize_joinParts_concat] at hlonger
    rw [isUsable_iff]
    refine ⟨?_, fun part hp => hlonger.2 part (List.mem_append_left _ hp)⟩
    have hsize := hlonger.1
    simp only at hsize ⊢
    omega

/-- A shorter last part does no harm. -/
theorem isUsable_concat {front : List String} {name other : String}
    (h : (⟨front ++ [name]⟩ : Path).isUsable = true)
    (hsize : other.utf8ByteSize ≤ name.utf8ByteSize) (hother : '\x00' ∉ other.toList) :
    (⟨front ++ [other]⟩ : Path).isUsable = true := by
  rw [isUsable_iff, utf8ByteSize_joinParts_concat] at h ⊢
  refine ⟨by omega, fun part hp => ?_⟩
  rcases List.mem_append.mp hp with hp | hp
  · exact h.2 part (List.mem_append_left _ hp)
  · rwa [List.mem_singleton.mp hp]

theorem isUsable_of_child {p : Path} {name : String} (h : (p.child name).isUsable = true) :
    p.isUsable = true := by
  have hstem : (⟨p.stem⟩ : Path).isUsable = true := isUsable_of_append h
  have hslash : (⟨p.stem ++ [""]⟩ : Path).isUsable = true :=
    isUsable_concat h (Nat.zero_le _) (by decide)
  rcases parts_cases p with hparts | hparts
  · rwa [← hparts] at hstem
  · rwa [← hparts] at hslash

theorem isUsable_slash : (⟨[""]⟩ : Path).isUsable = true := by decide

end GuardedUi.Path
