/-
  How a task ends, and what can go wrong.

  * An `Outcome` is the end of a body that ran: a value or a panic with its
    payload.
  * A `TaskError` is why a handle holds no value; `Outcome.result` is what
    the handle of a body that ran gets.
  * A `PoolError` is why the pool refused an operation.
  * A `Panic` is why a call on the pool or on a handle panicked.

  Task errors are ordered by kind first (panics lowest, an expired wait
  highest), panics among themselves by their text.
-/
import WorkerPool.Text.Dump

namespace WorkerPool

/-- What a panic carries: a text, or something that is no text.  It is caught and, its
    text known, dropped.  What panics again when it is dropped is no `Payload`: such an end
    of a body is a burst (`Pool/Burst`). -/
inductive Payload where
  | text (message : String)
  | other
  deriving DecidableEq, Repr

/-- The text by which a panic is known. -/
def Payload.message : Payload → String
  | text m => m
  | other => "unknown panic"

/-! ## Errors of a task -/

/-- Why a handle holds no value. -/
inductive TaskError where
  /-- the body panicked -/
  | panicked (message : String)
  /-- the task was cancelled before it started -/
  | cancelled
  /-- the task was dropped without being run -/
  | discarded
  /-- the wait for the result expired -/
  | timedOut
  deriving DecidableEq, Repr

namespace TaskError

/-- The kinds in ascending order. -/
def rank : TaskError → Nat
  | panicked _ => 0
  | cancelled => 1
  | discarded => 2
  | timedOut => 3

/-- By kind, and two panics by their text. -/
def order : TaskError → TaskError → Ordering
  | panicked a, panicked b => Ord.compare a b
  | a, b => Ord.compare a.rank b.rank

/-- The text shown to a user. -/
def message : TaskError → String
  | panicked m => "task panicked: " ++ m
  | cancelled => "task was cancelled before it started"
  | discarded => "task was discarded without running"
  | timedOut => "timed out waiting for task result"

/-- The dump: the kind, and with a panic its text. -/
def dump : TaskError → String
  | panicked m => Text.variant "Panic" (Text.quoted m)
  | cancelled => "Cancelled"
  | discarded => "Discarded"
  | timedOut => "Timeout"

/-- The positions of a list of errors in ascending order of the errors,
    equal ones in their old order. -/
def sortedPositions (es : List TaskError) : List Nat :=
  (es.zipIdx.mergeSort fun a b => order a.1 b.1 != .gt).map (·.2)

/-- The greatest error of a list. -/
def greatest? : List TaskError → Option TaskError
  | [] => none
  | e :: es => some (es.foldl (fun m x => if order m x == .gt then m else x) e)

end TaskError

/-- What a handle delivers. -/
abbrev TaskResult (V : Type) := Except TaskError V

/-! ## The end of a body -/

/-- The end of a body that ran. -/
inductive Outcome (V : Type) where
  | returned (v : V)
  | panicked (p : Payload)
  deriving DecidableEq, Repr

/-- What the handle of a body that ran gets. -/
def Outcome.result {V : Type} : Outcome V → TaskResult V
  | returned v => .ok v
  | panicked p => .error (.panicked p.message)

/-! ## Errors of the pool -/

/-- Why the pool refused an operation. -/
inductive PoolError where
  /-- no thread could be had for the worker with this id -/
  | spawn (worker : Nat) (cause : String)
  /-- the backlog is full -/
  | full (capacity : Nat)
  deriving DecidableEq, Repr

namespace PoolError

/-- The text shown to a user. -/
def message : PoolError → String
  | spawn w cause => "failed to spawn worker " ++ toString w ++ ": " ++ cause
  | full c => "task queue is full (capacity " ++ toString c ++ ")"

/-- The text of the error behind this one. -/
def cause? : PoolError → Option String
  | spawn _ cause => some cause
  | full _ => none

/-- The dump of a full backlog; a missing thread is described by the system. -/
def dump? : PoolError → Option String
  | spawn _ _ => none
  | full c => some (Text.record "QueueFull" [("capacity", toString c)])

end PoolError

/-! ## Panics of a call -/

/-- Why a call panics. -/
inductive Panic where
  /-- a handle that had answered was asked again in a way that forbids it -/
  | spentHandle
  /-- there is no memory that could hold a roster of that size -/
  | rosterOverflow
  /-- the name of a thread holds a NUL, where the system takes it to end -/
  | nulInName (name : String)
  /-- what another panic carried has panicked when it was dropped -/
  | dropped (message : String)
  deriving DecidableEq, Repr

/-- The text of a panic; a name with a NUL is shown by its bytes, after the
    position of the first NUL. -/
def Panic.message : Panic → String
  | spentHandle => "called after complete"
  | rosterOverflow => "capacity overflow"
  | nulInName name =>
    let bytes := Text.bytes name
    "thread name may not contain interior null bytes: " ++ Text.variant "NulError"
      (toString (bytes.idxOf 0) ++ ", " ++ Text.sequence (bytes.map toString))
  | dropped message => message

end WorkerPool
