import GuardedUi.Command.Generate

/-!
# `Proofs/Command/Answering` — whoever answers the questions

Where the answers come from must not matter for what a command does with them. `Dialogue.answeredBy`
takes them from any callback, which can remember what it was asked; a list of answers and lines of
input are two of them (`withAnswers_eq_answeredBy`, `withInput_eq_answeredBy`).

> **Questions are asked in order, up to the first answer that is not a yes**
> (`askAll_cases`): the run goes on if all were answered with yes.
-/

set_option autoImplicit false

namespace GuardedUi

namespace Dialogue

section Callbacks

variable {σ α : Type}

/-- The result when a callback with a state answers, and the questions that it was asked. -/
def answeredBy (answer : σ → String → Except AnswerError Bool × σ) :
    σ → Dialogue α → α × List String
  | _, .done result => (result, [])
  | state, .ask question next =>
    let reply := answer state question
    let run := (next reply.1).answeredBy answer reply.2
    (run.1, question :: run.2)

/-- Answers from a list; after the last one nobody answers any more. -/
def fromList : List Bool → String → Except AnswerError Bool × List Bool
  | [], _ => (.error .unanswered, [])
  | answer :: rest, _ => (.ok answer, rest)

theorem withAnswers_eq_answeredBy (answers : List Bool) (d : Dialogue α) :
    d.withAnswers answers = d.answeredBy fromList answers := by
  induction d generalizing answers with
  | done result => cases answers <;> rfl
  | ask question next ih =>
    cases answers with
    | nil => simp only [withAnswers, answeredBy, fromList, ih]
    | cons answer rest => simp only [withAnswers, answeredBy, fromList, ih]

theorem withInput_eq_answeredBy (input : List UInt8) (d : Dialogue α) :
    d.withInput input = d.answeredBy (fun rest _ => Prompt.answer rest) input := by
  induction d generalizing input with
  | done result => rfl
  | ask question next ih => simp only [withInput, answeredBy, ih]

end Callbacks

end Dialogue

namespace Command

section Asking

variable {σ α : Type} (answer : σ → String → Except AnswerError Bool × σ) (state : σ)
  (failed : AnswerError → α) (no yes : α)

/-- How a run of questions ends. -/
theorem askAll_cases (questions : List String) :
    ∃ result asked, (askAll failed no yes questions).answeredBy answer state = (result, asked) ∧
      asked <+: questions ∧ (questions ≠ [] → asked ≠ []) ∧
      ((∃ e, result = failed e) ∨ result = no ∨ result = yes ∧ asked = questions) := by
  induction questions generalizing state with
  | nil => exact ⟨yes, [], rfl, List.prefix_rfl, id, .inr (.inr ⟨rfl, rfl⟩)⟩
  | cons question rest ih =>
    have hstart : [question] <+: question :: rest := ⟨rest, rfl⟩
    have hne : question :: rest ≠ [] → [question] ≠ [] := fun _ => List.cons_ne_nil _ _
    rw [askAll, Dialogue.answeredBy]
    cases (answer state question).1 with
    | error e => exact ⟨failed e, [question], rfl, hstart, hne, .inl ⟨e, rfl⟩⟩
    | ok reply =>
      cases reply with
      | false => exact ⟨no, [question], rfl, hstart, hne, .inr (.inl rfl)⟩
      | true =>
        obtain ⟨result, asked, hrun, hprefix, -, hresult⟩ := ih (answer state question).2
        refine ⟨result, question :: asked, by simp only [hrun],
          List.cons_prefix_cons.mpr ⟨rfl, hprefix⟩, fun _ => List.cons_ne_nil _ _, ?_⟩
        exact hresult.imp_right (Or.imp_right fun ⟨hyes, hall⟩ => ⟨hyes, hall ▸ rfl⟩)

/-- A single question is always asked. -/
theorem asked_askAll_of_length_le_one {questions : List String} (h : questions.length ≤ 1) :
    ((askAll failed no yes questions).answeredBy answer state).2 = questions := by
  obtain ⟨result, asked, hrun, hprefix, hne, -⟩ :=
    askAll_cases answer state failed no yes questions
  rw [hrun]
  cases questions with
  | nil => exact List.prefix_nil.mp hprefix
  | cons question rest =>
    obtain rfl : rest = [] := List.eq_nil_of_length_eq_zero (by simpa using h)
    rcases List.prefix_cons_iff.mp hprefix with rfl | ⟨others, rfl, hothers⟩
    · exact absurd rfl (hne (List.cons_ne_nil _ _))
    · rw [List.prefix_nil.mp hothers]

/-- Whoever says no to every question stops the run if there is one. -/
theorem answeredBy_askAll_of_refused (hno : ∀ s q, (answer s q).1 = .ok false)
    {questions : List String} (h : questions ≠ []) :
    ((askAll failed no yes questions).answeredBy answer state).1 = no := by
  obtain ⟨question, rest, rfl⟩ := List.exists_cons_of_ne_nil h
  rw [askAll, Dialogue.answeredBy, hno]
  rfl

end Asking

end Command

end GuardedUi
