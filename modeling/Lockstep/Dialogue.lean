/-!
# Dialogues

A program that acts on its surroundings is described here without acting: it is a finite tree
which either is done or asks something and goes on with the answer.  Whoever runs the program
decides what the answers are, and a statement about all answers is a statement about the tree.
-/

namespace Lockstep

/-- A program that asks `question : Question`, is told an `Answer question`, and finally yields a
result. -/
inductive Dialogue (Question : Type) (Answer : Question → Type) (Result : Type) where
  | done (result : Result)
  | ask (question : Question)
      (next : Answer question → Dialogue Question Answer Result)

namespace Dialogue

variable {Question : Type} {Answer : Question → Type} {First Second : Type}

/-- Goes on with the result of another dialogue. -/
def andThen (next : First → Dialogue Question Answer Second) :
    Dialogue Question Answer First → Dialogue Question Answer Second
  | .done result => next result
  | .ask question rest => .ask question fun answer => (rest answer).andThen next

instance : Monad (Dialogue Question Answer) where
  pure := .done
  bind dialogue next := dialogue.andThen next

/-- The dialogue that asks one question. -/
def question (question : Question) : Dialogue Question Answer (Answer question) :=
  .ask question .done

/-- Leads the dialogue with somebody who answers from a state and thereby changes it. -/
def run {State : Type} (answer : (question : Question) → State → Answer question × State) :
    Dialogue Question Answer First → State → First × State
  | .done result, state => (result, state)
  | .ask question rest, state =>
    let (reply, state) := answer question state
    (rest reply).run answer state

/-- Leads the dialogue in any monad. -/
def runM {Context : Type → Type} [Monad Context]
    (answer : (question : Question) → Context (Answer question)) :
    Dialogue Question Answer First → Context First
  | .done result => pure result
  | .ask question rest => do (rest (← answer question)).runM answer

@[simp]
theorem run_andThen {State : Type}
    (answer : (question : Question) → State → Answer question × State)
    (dialogue : Dialogue Question Answer First) (next : First → Dialogue Question Answer Second)
    (state : State) :
    (dialogue.andThen next).run answer state =
      (next (dialogue.run answer state).1).run answer (dialogue.run answer state).2 := by
  induction dialogue generalizing state with
  | done result => rfl
  | ask question rest ih => simp only [andThen, run, ih]

end Dialogue

end Lockstep
