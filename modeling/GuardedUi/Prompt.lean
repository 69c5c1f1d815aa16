import GuardedUi.Text.Blank
import GuardedUi.Text.Utf8

/-!
# `Prompt` — questions in the middle of a computation

A command may have to ask before it goes on. It does not read an answer itself: a `Dialogue` is
either a result, or a question with what comes after each answer. Whoever runs the command decides
where the answers come from. `Dialogue.withAnswers` takes them from a list, `Dialogue.withInput`
from lines of input, of which `y` and `yes` mean yes and all others no.
-/

set_option autoImplicit false

namespace GuardedUi

/-- Why there is no answer to a question. -/
inductive AnswerError where
  | unanswered
  | unreadable
  deriving DecidableEq, Repr

def AnswerError.message : AnswerError → String
  | .unanswered => "no answer"
  | .unreadable => "Failed to read answer"

/-- A computation that asks questions on its way to a result. -/
inductive Dialogue (α : Type) where
  | done (result : α)
  | ask (question : String) (next : Except AnswerError Bool → Dialogue α)

namespace Dialogue

/-- The same questions, with a function applied to the result. -/
def map {α β : Type} (f : α → β) : Dialogue α → Dialogue β
  | .done result => .done (f result)
  | .ask question next => .ask question fun answer => (next answer).map f

/-- The result when the answers come from a list, and the questions that were asked; after the last
answer nobody answers any more. -/
def withAnswers {α : Type} : List Bool → Dialogue α → α × List String
  | _, .done result => (result, [])
  | [], .ask question next =>
    let (result, questions) := (next (.error .unanswered)).withAnswers []
    (result, question :: questions)
  | answer :: rest, .ask question next =>
    let (result, questions) := (next (.ok answer)).withAnswers rest
    (result, question :: questions)

end Dialogue

namespace Prompt

def text (question : String) : String :=
  question ++ " [y/N] "

/-- A line of input with its line break, and the input after it. -/
def readLine : List UInt8 → List UInt8 × List UInt8
  | [] => ([], [])
  | b :: rest =>
    if b = 10 then ([b], rest)
    else
      let (line, rest) := readLine rest
      (b :: line, rest)

/-- Whether a line means yes; ASCII letters count without regard to case. -/
def meansYes (line : List Char) : Bool :=
  let word := (Text.trim line).map Char.toLower
  word == ['y'] || word == ['y', 'e', 's']

/-- The answer that the next line of input gives, and the input after it. The end of the input is a
no. -/
def answer (input : List UInt8) : Except AnswerError Bool × List UInt8 :=
  let (line, rest) := readLine input
  match Text.Utf8.decode? line with
  | some chars => (.ok (meansYes chars), rest)
  | none => (.error .unreadable, rest)

/-- The answers to a question that is asked several times. -/
def answers : Nat → List UInt8 → List (Except AnswerError Bool)
  | 0, _ => []
  | times + 1, input => (answer input).1 :: answers times (answer input).2

end Prompt

/-- The result when the answers come from lines of input, and the questions that were asked. -/
def Dialogue.withInput {α : Type} : List UInt8 → Dialogue α → α × List String
  | _, .done result => (result, [])
  | input, .ask question next =>
    let (answer, rest) := Prompt.answer input
    let (result, questions) := (next answer).withInput rest
    (result, question :: questions)

end GuardedUi
