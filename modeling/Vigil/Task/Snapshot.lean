import Vigil.Json
import Vigil.Number.Shortest
import Vigil.Task.Registry

/-!
# Task — Snapshot

The state of a registry at one instant: how many tasks ended in which way, and the pending ones,
oldest first.
-/

namespace Vigil.Task

/-- A pending task in a snapshot. -/
structure Orphan where
  id : String
  name : String
  age : Span
  deriving DecidableEq, Repr

namespace Orphan

/-- A pending task as it stands at `now`. -/
def ofRecord (now : Tick) (t : Record) : Orphan := ⟨t.id, t.name, t.age now⟩

/-- The order of orphans: the older first, and by id those of one age. -/
def before (a b : Orphan) : Bool := b.age < a.age || (a.age = b.age && a.id ≤ b.id)

end Orphan

/-- The state of a registry at one instant. -/
structure Snapshot where
  total : Nat
  completed : Nat
  failed : Nat
  cancelled : Nat
  orphaned : Nat
  orphans : List Orphan
  deriving DecidableEq, Repr

namespace Snapshot

/-- The snapshot of tasks met in any order. -/
def ofRecords (records : List Record) (now : Tick) : Snapshot where
  total := records.length
  completed := records.countP (·.outcome matches .succeeded)
  failed := records.countP (·.outcome matches .failed _)
  cancelled := records.countP (·.outcome matches .cancelled _)
  orphaned := records.countP (·.outcome matches .pending)
  orphans := ((records.filter (·.isOrphaned)).map (.ofRecord now)).mergeSort Orphan.before

/-- Whether an orphan has the id. -/
def hasOrphan (s : Snapshot) (id : String) : Bool := s.orphans.any (·.id == id)

/-- The orphans are counted as the pending tasks are. -/
theorem orphaned_ofRecords (records : List Record) (now : Tick) :
    (ofRecords records now).orphaned = (records.filter (·.isOrphaned)).length := by
  rw [← List.countP_eq_length_filter]
  refine List.countP_congr fun t _ => ?_
  rw [Record.isOrphaned]
  cases t.outcome <;> simp

end Snapshot

/-- The state of the registry at `now`. -/
def Registry.snapshot (r : Registry) (now : Tick) : Snapshot := .ofRecords r.records now

end Vigil.Task
