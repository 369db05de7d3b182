import Vigil.Clock.Basic

/-!
# Task — Basic

A tracked task and how it ended.
-/

namespace Vigil.Task

/-- How a task ended, if it has. -/
inductive Outcome where
  /-- Started and not ended. -/
  | pending
  | succeeded
  | failed (error : String)
  | cancelled (reason : String)
  deriving DecidableEq, Repr

namespace Outcome

/-- Whether the task has ended. -/
def isTerminal : Outcome → Bool
  | .pending => false
  | _ => true

/-- The outcome in one word. -/
def label : Outcome → String
  | .pending => "pending"
  | .succeeded => "succeeded"
  | .failed _ => "failed"
  | .cancelled _ => "cancelled"

/-- What an operation gave: success, or an error, which need not be told. -/
def ofCompletion (success : Bool) (error : Option String) : Outcome :=
  if success then .succeeded else .failed (error.getD "unspecified error")

end Outcome

/-- A named operation under a unique id. -/
structure Record where
  id : String
  name : String
  startedAt : Tick
  outcome : Outcome
  /-- When the task ended; `none` while it is pending. -/
  endedAt : Option Tick
  deriving DecidableEq, Repr

namespace Record

/-- A task that starts. -/
def new (id name : String) (now : Tick) : Record := ⟨id, name, now, .pending, none⟩

/-- A task that has not ended. -/
def isOrphaned (t : Record) : Bool := t.outcome = .pending

/-- The time since the task started. -/
def age (t : Record) (now : Tick) : Span := now - t.startedAt

/-- The task as it is once it has ended. -/
def finish (t : Record) (outcome : Outcome) (now : Tick) : Record :=
  { t with outcome := outcome, endedAt := some now }

/-- Whether the task ended longer than `retention` ago. -/
def expired (t : Record) (retention : Span) (now : Tick) : Bool :=
  match t.endedAt with
  | some ended => retention < now - ended
  | none => false

end Record
end Vigil.Task
