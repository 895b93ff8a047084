import Nomenclator.Suggestion.Decomposition

/-!
# Remembered decompositions

A decomposition depends on the type and on whether phrases for awaited things are asked for, and on
nothing else. A memo answers a question that it has seen before by the very answer that it gave
then. Answers are told apart by the number of the computation that made them; clearing a memo does
not start the count anew.

The whole type is part of the question, with its base type and interfaces, because types of the same
spelling may differ in these.
-/

namespace Nomenclator

/-- What a decomposition depends on. -/
structure Question where
  type : TypeRef
  asyncPhrases : Bool := false
  deriving DecidableEq

/-- An answer that can be given again. -/
structure Answer where
  question : Question
  /-- How many computations were made before this one. -/
  number : Nat
  variants : List NameVariant
  deriving DecidableEq

/-- The answers given so far. -/
structure Memo where
  answers : List Answer := []
  /-- How many computations have been made. -/
  computations : Nat := 0
  deriving DecidableEq

namespace Memo

/-- The memo of no answers. -/
def empty : Memo := {}

/-- How many answers are remembered. -/
def size (m : Memo) : Nat := m.answers.length

/-- No answers are remembered. -/
def isEmpty (m : Memo) : Bool := m.answers.isEmpty

/-- The answer given to this question before. -/
def find? (m : Memo) (q : Question) : Option Answer :=
  m.answers.find? fun a => a.question = q

/-- Answer a question, by computing the answer if none is remembered. -/
def ask (m : Memo) (q : Question) : Answer × Memo :=
  match m.find? q with
  | some a => (a, m)
  | none =>
    let a : Answer := ⟨q, m.computations, q.type.decompose q.asyncPhrases⟩
    (a, { answers := m.answers ++ [a], computations := m.computations + 1 })

/-- Forget all answers. -/
def clear (m : Memo) : Memo := { m with answers := [] }

end Memo

end Nomenclator
