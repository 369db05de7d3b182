/-!
# Platform — Answers

What requests are answered with, by whoever may refuse them.
-/

namespace Vigil

/-- What is answered to requests: the next answers in order, and then one and the same.  An answer
is why the request is refused, or `none` if it is not. -/
structure Answers (ε : Type) where
  next : List (Option ε) := []
  rest : Option ε := none
  deriving DecidableEq, Repr

namespace Answers
variable {ε : Type}

/-- The answer to the next request. -/
def first (a : Answers ε) : Option ε := a.next.head?.getD a.rest

/-- The answers to the requests after that. -/
def later (a : Answers ε) : Answers ε := { a with next := a.next.tail }

/-- No request is refused. -/
def Accepts (a : Answers ε) : Prop := a.rest = none ∧ ∀ x ∈ a.next, x = none

end Answers
end Vigil
