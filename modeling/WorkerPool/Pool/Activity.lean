/-
  What a thread of the pool can be in the middle of.

  A thread is a stack of activities, the innermost first: a worker's loop, a
  task it runs, a call that the task's body makes, and so on.  An activity
  stands at a point, and between two points lies exactly one atomic step: a
  critical section of the backlog, one access to a counter or a flag, one
  wake-up, one clock reading.

  * `Call` is what can be asked of the pool and `Reply` what comes back;
  * `WorkPoint` is the loop of a worker, `TaskPoint` the run of one task;
  * the other points belong to the calls.
-/
import WorkerPool.Backlog
import WorkerPool.Idle.Histogram
import WorkerPool.Metrics
import WorkerPool.Outcome

namespace WorkerPool

/-! ## Calls and replies -/

/-- A question with a one-step answer. -/
inductive Query where
  | size
  | idle
  /-- the name of the thread of the worker at a place of the roster -/
  | thread (i : Nat)
  | queued
  | capacity
  | stopped
  | histogram
  deriving DecidableEq, Repr

/-- A way of asking a handle for its result. -/
inductive Asking where
  /-- without waiting, and the handle may be asked again -/
  | once
  /-- as a future, polled once -/
  | poll
  /-- until there is a result -/
  | wait
  /-- until there is a result or the wait expires -/
  | deadline
  deriving DecidableEq, Repr

/-- What can be asked of the pool, of a handle or of a task taken out. -/
inductive Call (B : Type) where
  | submit (body : B)
  | trySubmit (body : B)
  | pop
  | clear
  | setCapacity (capacity : Nat)
  | resize (workers : Nat)
  | stop (graceful : Bool)
  | drop
  | ask (q : Query)
  | metrics
  | cancel (k : TaskId)
  | isCancelled (k : TaskId)
  | receive (k : TaskId) (how : Asking)
  | joinAll (ks : List TaskId)
  | runTaken (k : TaskId) (worker : Nat)
  | dropTaken (k : TaskId)

/-- Whether a call is made on the pool itself, so that the pool must be
    there. -/
def Call.usesPool {B : Type} : Call B → Bool
  | submit _ | trySubmit _ | pop | clear | setCapacity _ | resize _ | stop _
  | drop | ask _ | metrics => true
  | cancel _ | isCancelled _ | receive _ _ | joinAll _ | runTaken _ _
  | dropTaken _ => false

/-- What a call comes back with. -/
inductive Reply (V : Type) where
  | done
  | handle (k : TaskId)
  | full (capacity : Nat)
  /-- no thread could be had for the worker with this id -/
  | refused (worker : Nat)
  | taken (k : Option TaskId)
  | count (n : Nat)
  | flag (b : Bool)
  | name (s : Option String)
  | histogram (h : Idle.Histogram)
  | metrics (m : Metrics)
  | pending
  | result (r : TaskResult V)
  | results (rs : List (TaskResult V))
  /-- the call has panicked -/
  | panicked (p : Panic)

/-! ## Workers -/

/-- A worker's passage between busy and idle.  On the way back it may bring
    the task that woke it; without one it will leave. -/
inductive Shift where
  | settle
  | resume (next : Option TaskId)
  deriving DecidableEq, Repr

/-- The points of a worker's loop. -/
inductive WorkPoint where
  /-- in its start hook -/
  | hook
  /-- about to take a task without waiting -/
  | fetch
  /-- has taken a task, about to wake a producer -/
  | fetched (k : TaskId)
  /-- about to look whether it was told to leave -/
  | check
  /-- about to mark itself idle -/
  | mark
  /-- about to read the clock -/
  | clock (s : Shift)
  /-- has read the clock, about to tell the monitor -/
  | shift (s : Shift) (now : Int)
  /-- has a report to log -/
  | report (s : Shift) (h : Idle.Histogram)
  /-- about to take a task, to give up, or to sleep -/
  | await
  /-- has taken a task while idle, about to wake a producer -/
  | awaited (k : TaskId)
  /-- about to take its idle mark back -/
  | unmark (next : Option TaskId)
  /-- about to give back its share of the pool -/
  | leave
  deriving DecidableEq, Repr

/-! ## Tasks -/

/-- The points in the run of one task. -/
inductive TaskPoint (V : Type) where
  /-- about to look whether the task was cancelled -/
  | inspect
  /-- about to count a task that was cancelled -/
  | skip
  /-- in the body -/
  | body
  /-- the body has ended, about to count it -/
  | tally (o : Outcome V)
  /-- about to send the result -/
  | settle (r : TaskResult V)

/-! ## Calls -/

/-- A pass that throws the whole backlog away. -/
inductive Clearing where
  | drain
  | wake (ks : List TaskId)
  | drop (ks : List TaskId) (n : Nat)
  | count (n : Nat)
  deriving DecidableEq, Repr

/-- The points of a submission that waits for room.  It is counted before the task is in
    the backlog, so that no snapshot shows more ends than submissions. -/
inductive SubmitPoint where
  | count
  | push
  | wake
  deriving DecidableEq, Repr

/-- The points of a submission that does not wait; without room it takes its count back. -/
inductive TrySubmitPoint where
  | count
  | push
  | wake
  /-- no room: about to take the count back -/
  | uncount
  /-- about to read the capacity for the error -/
  | refuse
  /-- about to drop the task and return -/
  | drop (capacity : Nat)
  deriving DecidableEq, Repr

/-- The points of a call that sets the capacity; at the last one it wakes the producers. -/
inductive CapacityPoint where
  /-- about to warn of a capacity of zero -/
  | warn
  | set
  | wake
  deriving DecidableEq, Repr

/-- The points of a resize, which holds the roster's lock from its entry to its end.
    `start` is the size that it found. -/
inductive ResizePoint where
  /-- about to take the roster's lock -/
  | enter
  /-- about to start the worker with this id -/
  | spawn (id start : Nat)
  /-- about to tell these workers to leave -/
  | tell (us : List ThreadId) (start : Nat)
  | wake (start : Nat)
  /-- about to log the change and to give the lock back -/
  | close (start : Nat)
  deriving DecidableEq, Repr

/-- The points of a stop.  It holds the roster's lock until it has emptied the roster, and
    waits for the workers without it. -/
inductive StopPoint where
  /-- about to take the roster's lock -/
  | enter
  /-- about to tell these workers to leave -/
  | tell (us : List ThreadId)
  /-- the first pass of a forced stop -/
  | purge (c : Clearing)
  | wake
  /-- about to empty the roster and to give the lock back -/
  | disband
  /-- about to wait for the end of these workers -/
  | join (us : List ThreadId) (joined : Nat)
  /-- about to look whether tasks are left -/
  | inspect (joined : Nat)
  /-- the last pass -/
  | sweep (c : Clearing) (joined : Nat)
  | close (joined discarded : Nat)
  deriving DecidableEq, Repr

/-- The parts of a snapshot, each read on its own. -/
inductive Gauge where
  | roster
  | completed
  | failed
  | discarded
  | queued
  | capacity
  | submitted
  deriving DecidableEq, Repr

/-- One handle of several that are awaited together. -/
inductive Slot (V : Type) where
  | waiting (k : TaskId)
  | got (r : TaskResult V)

/-- The result of a handle awaited with others, if it has come. -/
def Slot.result? {V : Type} : Slot V → Option (TaskResult V)
  | waiting _ => none
  | got r => some r

/-! ## Activities -/

/-- What a thread is in the middle of: a worker's loop, the run of a task, or a call, and
    the point at which it stands there. -/
inductive Activity (V : Type) where
  | work (p : WorkPoint)
  | task (k : TaskId) (worker : Nat) (p : TaskPoint V)
  /-- a task taken out is run by the thread that holds it -/
  | inline
  | submit (k : TaskId) (p : SubmitPoint)
  | trySubmit (k : TaskId) (p : TrySubmitPoint)
  /-- about to take a task, or has taken it and is about to wake a producer -/
  | pop (taken : Option TaskId)
  | clear (c : Clearing)
  | setCapacity (capacity : Nat) (p : CapacityPoint)
  | resize (workers : Nat) (p : ResizePoint)
  | stop (graceful : Bool) (p : StopPoint)
  /-- the pool is being built, about to set memory aside for its roster -/
  | reserve (workers : Nat)
  /-- the pool is being built and its first workers have been asked for -/
  | build (workers : Nat)
  /-- the pool is stopped and about to give back its share of itself -/
  | teardown (r : Reply V)
  /-- drops tasks one by one, then answers -/
  | discard (ks : List TaskId) (r : Reply V)
  | ask (q : Query)
  | measure (g : Gauge) (m : Metrics)
  | cancel (k : TaskId)
  | isCancelled (k : TaskId)
  | receive (k : TaskId) (how : Asking)
  | joinAll (slots : List (Slot V))

/-- Whether an activity is a call on the pool that has not returned, so that
    the pool cannot be dropped. -/
def Activity.usesPool {V : Type} : Activity V → Bool
  | submit .. | trySubmit .. | pop _ | clear _ | setCapacity .. | resize ..
  | stop .. | reserve _ | build _ | ask _ | measure .. => true
  | work _ | task .. | inline | teardown _ | discard .. | cancel _
  | isCancelled _ | receive .. | joinAll _ => false

end WorkerPool
