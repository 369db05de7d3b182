import Vigil.Host.Basic

/-!
# Host — Operations

Operations that run as tracked tasks, each under an id of its own.  Whichever way one ends, its task
is ended exactly once; a panic runs the hook first, while the task still counts as pending.
-/

namespace Vigil.Host
variable {ids : Nat → String} {α : Type}

/-- Adds an operation that is to run soon: its number is that of the operations before. -/
def addOperation (h : Host ids α) (registry : Nat) (name : String) (delay : Span)
    (ending : Ending α) : Host ids α :=
  let op : Operation α := ⟨registry, .fresh name, delay, ending, none, none⟩
  { h with operations := h.operations ++ [op] }.soon [.startOperation h.operations.length]

/-- Puts an operation in the place of one. -/
def setOperation (h : Host ids α) (id : Nat) (op : Operation α) : Host ids α :=
  { h with operations := h.operations.set id op }

/-- The task of an operation ends. -/
def leave (h : Host ids α) (id : Nat) (op : Operation α) (exit : Task.Tracked.Exit)
    (outcome : Outcome α) : Host ids α :=
  let (platform, task) := h.platform.withRegistry op.registry op.task fun r =>
    let (task, r, events) := op.task.leave r exit h.now
    (r, task, events)
  { h with platform }.setOperation id { op with task, wake := none, outcome := some outcome }

/-- What is said by an operation that panics. -/
def operationPanic : String := "operation failed"

/-- An operation comes to its end. -/
def finish (h : Host ids α) (id : Nat) (op : Operation α) : Host ids α :=
  match op.ending with
  | .value a => h.leave id op .succeeded (.value a)
  | .error text => h.leave id op (.failed text) (.error text)
  | .panic => (h.panic operationPanic).leave id op .abandoned .panicked

/-- An operation runs for the first time, unless it was aborted. -/
def startOperation (h : Host ids α) (id : Nat) : Host ids α :=
  match h.operations[id]? with
  | none => h
  | some op =>
    if op.outcome.isSome then h
    else
      let (platform, task) := h.platform.withRegistry op.registry op.task fun r =>
        let (task, r, events) := op.task.enter r (ids id) h.now
        (r, task, events)
      let h := { h with platform }
      let op := { op with task }
      if op.delay = 0 then h.finish id op
      else h.setOperation id { op with wake := some (h.now + op.delay) }

/-- An operation has waited long enough. -/
def wakeOperation (h : Host ids α) (id : Nat) : Host ids α :=
  match h.operations[id]? with
  | none => h
  | some op => h.finish id op

/-- Aborts an operation that has not ended. -/
def abortOperation (h : Host ids α) (id : Nat) : Host ids α :=
  match h.operations[id]? with
  | none => h
  | some op => if op.outcome.isSome then h else h.leave id op .abandoned .aborted

end Vigil.Host
