/-
  The state of a pool and of every thread that has to do with it.

  The shared part is what the threads see of each other: the backlog, the
  counters, the two stop flags, the idle monitor, the roster of owned
  workers with its lock, and the tasks with their cancel flags and promises.
  Worker threads and outside threads stand in one table.

  The small updates at the end are the atomic effects from which the steps
  of `Pool/Work`, `Pool/Calls` and `Pool/Roster` are made.
-/
import WorkerPool.Idle.Monitor
import WorkerPool.Pool.Activity
import WorkerPool.Promise

namespace WorkerPool

/-! ## Parts -/

/-- How many tasks were submitted, how many bodies returned and panicked, and how many tasks
    were thrown away or skipped. -/
structure Counters where
  submitted : Nat
  completed : Nat
  failed : Nat
  discarded : Nat
  deriving DecidableEq, Repr

/-- A task: its body, whether it was cancelled, and the promise of its
    result. -/
structure Job (B V : Type) where
  body : B
  cancelled : Bool
  promise : Promise (TaskResult V)

/-- What the pool knows of a worker. -/
structure Badge where
  id : Nat
  /-- whether it was told to leave -/
  told : Bool
  idle : Bool
  deriving DecidableEq, Repr

/-- A thread; only workers wear a badge. -/
structure Thread (V : Type) where
  badge : Option Badge
  /-- the innermost activity first; a worker with none has ended -/
  stack : List (Activity V)
  /-- the reply to its latest call -/
  reply : Option (Reply V)
  /-- whether it ended by a panic -/
  died : Bool

/-- A line of the log. -/
inductive Record where
  | created (workers capacity : Nat)
  | resized (start stop : Nat)
  | stopped (graceful : Bool) (joined discarded : Nat)
  | capacityClamped
  | workerPanicked (id : Nat)
  | idleReport (h : Idle.Histogram)
  deriving DecidableEq, Repr

/-- The stages of a pool's life.  Calls on the pool are made in the second
    one only. -/
inductive Life where
  | building
  | serving
  | dropped
  deriving DecidableEq, Repr

/-! ## The state -/

/-- **A state of a pool**: what its threads share, and where each of them stands. -/
structure State (B V : Type) where
  /-- the name that the threads of the workers begin with -/
  name : String
  /-- whether each worker runs a hook when it starts -/
  hooked : Bool
  backlog : Backlog
  counters : Counters
  /-- a graceful stop was made -/
  done : Bool
  /-- a forced stop was made -/
  forced : Bool
  monitor : Idle.Monitor
  clock : Int
  /-- the threads of the owned workers, by id -/
  roster : List ThreadId
  /-- the thread that holds the roster's lock -/
  lock : Option ThreadId
  jobs : List (Job B V)
  threads : List (Thread V)
  /-- tasks that callers took out and hold -/
  taken : List TaskId
  /-- how many share the pool's inside: the pool and every live worker -/
  sharers : Nat
  life : Life
  log : List Record

variable {B V : Type}

/-- A new task. -/
def Job.ofBody (body : B) : Job B V := ⟨body, false, .fresh⟩

/-- A new thread of a worker. -/
def Thread.worker (id : Nat) (hooked : Bool) : Thread V where
  badge := some ⟨id, false, false⟩
  stack := [.work (if hooked then .hook else .fetch)]
  reply := none
  died := false

/-- A thread from outside with nothing to do. -/
def Thread.outside : Thread V := ⟨none, [], none, false⟩

/-- Whether a thread is a worker that has ended. -/
def Thread.hasEnded (th : Thread V) : Bool := th.badge.isSome && th.stack.isEmpty

/-- Whether a thread may begin a call: an outside thread with nothing to do,
    or any thread in the body of a task. -/
def Thread.isFree (th : Thread V) : Bool :=
  match th.stack with
  | [] => th.badge.isNone
  | .task _ _ .body :: _ => true
  | _ => false

namespace State

/-! ## Reading -/

/-- Whether either kind of stop was made. -/
def isStopped (s : State B V) : Bool := s.done || s.forced

/-- What the pool knows of the worker on this thread. -/
def badge? (s : State B V) (t : ThreadId) : Option Badge := do (← s.threads[t]?).badge

/-- The number of owned workers. -/
def size (s : State B V) : Nat := s.roster.length

/-- How many owned workers wear an idle mark. -/
def idleCount (s : State B V) : Nat :=
  s.roster.countP fun t => (s.badge? t).any (·.idle)

/-- The name of the thread of the worker with this id. -/
def threadName (s : State B V) (id : Nat) : String := s.name ++ "-" ++ toString id

/-- The name of the thread of the worker at a place of the roster. -/
def threadName? (s : State B V) (i : Nat) : Option String := do
  let badge ← s.badge? (← s.roster[i]?)
  return s.threadName badge.id

/-- The snapshot that is read while nothing moves. -/
def metrics (s : State B V) : Metrics where
  workers := s.size
  idle := s.idleCount
  queued := s.backlog.tasks.length
  capacity := s.backlog.capacity
  submitted := s.counters.submitted
  completed := s.counters.completed
  failed := s.counters.failed
  discarded := s.counters.discarded

/-- How many worker threads have not ended. -/
def aliveCount (s : State B V) : Nat :=
  s.threads.countP fun th => th.badge.isSome && !th.hasEnded

/-- Whether some call on the pool has not returned. -/
def inUse (s : State B V) : Bool :=
  s.threads.any fun th => th.stack.any Activity.usesPool

/-! ## Atomic effects -/

/-- Writes a line of the log. -/
def record (s : State B V) (r : Record) : State B V := { s with log := s.log ++ [r] }

/-- Changes one thread. -/
def modifyThread (s : State B V) (t : ThreadId) (f : Thread V → Thread V) : State B V :=
  { s with threads := s.threads.modify t f }

/-- Changes what the pool knows of a worker. -/
def modifyBadge (s : State B V) (t : ThreadId) (f : Badge → Badge) : State B V :=
  s.modifyThread t fun th => { th with badge := th.badge.map f }

/-- Tells a worker to leave. -/
def tell (s : State B V) (t : ThreadId) : State B V :=
  s.modifyBadge t ({ · with told := true })

/-- Sets or takes back the idle mark of a worker. -/
def markIdle (s : State B V) (t : ThreadId) (idle : Bool) : State B V :=
  s.modifyBadge t ({ · with idle := idle })

/-- Changes one task. -/
def modifyJob (s : State B V) (k : TaskId) (f : Job B V → Job B V) : State B V :=
  { s with jobs := s.jobs.modify k f }

/-- Sends the result of a task. -/
def settle (s : State B V) (k : TaskId) (r : TaskResult V) : State B V :=
  s.modifyJob k fun j => { j with promise := j.promise.send r }

/-- Drops a task, and with it the sending end of its promise, before a result was sent. -/
def abandon (s : State B V) (k : TaskId) : State B V :=
  s.modifyJob k fun j => { j with promise := j.promise.close }

/-- Asks for the cancellation of a task; it stays where it is. -/
def cancel (s : State B V) (k : TaskId) : State B V :=
  s.modifyJob k ({ · with cancelled := true })

/-- Changes the counters. -/
def count (s : State B V) (f : Counters → Counters) : State B V :=
  { s with counters := f s.counters }

/-- Starts the thread of a worker and enters it in the roster. -/
def spawn (s : State B V) (id : Nat) : State B V :=
  { s with
    threads := s.threads ++ [.worker id s.hooked]
    roster := s.roster ++ [s.threads.length]
    sharers := s.sharers + 1 }

/-- Gives back one share of the pool's inside.  The last one to do so has
    the tasks that were left in the backlog to drop. -/
def release (s : State B V) : State B V × List TaskId :=
  if s.sharers ≤ 1 then
    ({ s with sharers := 0, backlog := s.backlog.drain.2 }, s.backlog.drain.1)
  else ({ s with sharers := s.sharers - 1 }, [])

end State

/-! ## Steps -/

/-- What chance decides in a step: which of the sleepers a wake-up reaches,
    and whether the system grants a thread. -/
structure Chance where
  pick : Nat
  granted : Bool
  deriving DecidableEq, Repr

/-- A step of a thread: the state it leaves behind, the activities that take
    the place of its innermost one, and the reply if a call has returned. -/
structure Turn (B V : Type) where
  state : State B V
  next : List (Activity V)
  reply : Option (Reply V)

namespace Turn

/-- The thread goes on with these activities. -/
def go (s : State B V) (next : List (Activity V)) : Option (Turn B V) :=
  some ⟨s, next, none⟩

/-- The innermost call of the thread returns. -/
def answer (s : State B V) (r : Reply V) : Option (Turn B V) :=
  some ⟨s, [], some r⟩

/-- The thread cannot move. -/
def blocked : Option (Turn B V) := none

end Turn

end WorkerPool
