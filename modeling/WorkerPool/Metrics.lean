/-
  A snapshot of the pool in numbers, and the three rates read off it.

  Each rate has a value of its own where its denominator is zero: no
  workers are not utilised, a backlog without capacity is under no pressure,
  and a pool that has finished nothing has failed at nothing.
-/
import WorkerPool.Binary64
import WorkerPool.Text.Dump

namespace WorkerPool

/-- One snapshot.  The capacity of an unbounded backlog is `2 ^ 64 - 1`. -/
structure Metrics where
  workers : Nat
  idle : Nat
  queued : Nat
  capacity : Nat
  submitted : Nat
  completed : Nat
  failed : Nat
  discarded : Nat
  deriving DecidableEq, Repr

namespace Metrics

/-- A snapshot of which nothing is read yet. -/
def zero : Metrics := ⟨0, 0, 0, 0, 0, 0, 0, 0⟩

/-- The share of the workers that are not idle. -/
def utilization (m : Metrics) : Float :=
  if m.workers = 0 then 0 else Binary64.quotient (m.workers - m.idle) m.workers

/-- The share of the capacity that is taken. -/
def queuePressure (m : Metrics) : Float :=
  if m.capacity = 0 then 0 else Binary64.quotient m.queued m.capacity

/-- The share of the bodies that returned among those that ended. -/
def successRate (m : Metrics) : Float :=
  if m.completed + m.failed = 0 then 1
  else Binary64.quotient m.completed (m.completed + m.failed)

/-- The dump of a snapshot, field by field. -/
def dump (m : Metrics) : String :=
  Text.record "PoolMetrics"
    [("workers", toString m.workers), ("idle_workers", toString m.idle),
     ("queued_tasks", toString m.queued), ("queue_capacity", toString m.capacity),
     ("total_submitted", toString m.submitted), ("completed_tasks", toString m.completed),
     ("failed_tasks", toString m.failed), ("discarded_tasks", toString m.discarded)]

end Metrics

end WorkerPool
