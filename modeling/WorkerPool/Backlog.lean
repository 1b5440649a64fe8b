/-
  The backlog: the bounded queue of tasks and the threads asleep at its two
  ends.

  `takers` sleep until a task arrives, `givers` until there is room.  Each
  operation here is one critical section or one wake-up, so a thread can
  come between any two of them.  A woken thread looks again before it acts.
-/
namespace WorkerPool

/-- Tasks are numbered in the order in which they were submitted. -/
abbrev TaskId := Nat

/-- Threads are numbered in the order in which they appear. -/
abbrev ThreadId := Nat

/-- The bounded queue of the waiting tasks, and those asleep at its two ends. -/
structure Backlog where
  /-- the oldest first -/
  tasks : List TaskId
  capacity : Nat
  takers : List ThreadId
  givers : List ThreadId
  deriving DecidableEq, Repr

/-- The capacity of a backlog without bound. -/
def unboundedCapacity : Nat := Nat.pow 2 64 - 1

namespace Backlog

/-- An empty backlog; a capacity of zero would let nothing in and counts as
    one. -/
def ofCapacity (capacity : Nat) : Backlog := ⟨[], max capacity 1, [], []⟩

/-- Whether a task can be appended. -/
def hasRoom (q : Backlog) : Bool := q.tasks.length < q.capacity

/-- Appends a task if there is room. -/
def push? (q : Backlog) (k : TaskId) : Option Backlog :=
  if q.hasRoom then some { q with tasks := q.tasks ++ [k] } else none

/-- Removes the oldest task. -/
def take? (q : Backlog) : Option (TaskId × Backlog) :=
  match q.tasks with
  | [] => none
  | k :: ks => some (k, { q with tasks := ks })

/-- Removes all tasks. -/
def drain (q : Backlog) : List TaskId × Backlog :=
  (q.tasks, { q with tasks := [] })

/-- Sets the capacity; the tasks in the backlog stay, also those beyond it. -/
def setCapacity (q : Backlog) (capacity : Nat) : Backlog :=
  { q with capacity := max capacity 1 }

/-! ## Sleeping and waking -/

/-- A thread goes to sleep until a task arrives. -/
def sleepTaker (q : Backlog) (t : ThreadId) : Backlog :=
  { q with takers := q.takers ++ [t] }

/-- A thread goes to sleep until there is room. -/
def sleepGiver (q : Backlog) (t : ThreadId) : Backlog :=
  { q with givers := q.givers ++ [t] }

/-- Takes one of the sleepers out, chance deciding which. -/
def wakeOne (sleepers : List ThreadId) (pick : Nat) : List ThreadId :=
  sleepers.eraseIdx (pick % sleepers.length)

/-- Wakes one of those that wait for a task. -/
def wakeTaker (q : Backlog) (pick : Nat) : Backlog :=
  { q with takers := wakeOne q.takers pick }

/-- Wakes one of those that wait for room. -/
def wakeGiver (q : Backlog) (pick : Nat) : Backlog :=
  { q with givers := wakeOne q.givers pick }

/-- Wakes all that wait for room. -/
def wakeGivers (q : Backlog) : Backlog := { q with givers := [] }

/-- Wakes all sleepers. -/
def wakeAll (q : Backlog) : Backlog := { q with takers := [], givers := [] }

/-- A thread wakes of itself. -/
def rouse (q : Backlog) (t : ThreadId) : Backlog :=
  { q with takers := q.takers.erase t, givers := q.givers.erase t }

/-- Whether a thread is asleep at either end. -/
def isAsleep (q : Backlog) (t : ThreadId) : Bool :=
  q.takers.contains t || q.givers.contains t

end Backlog

end WorkerPool
