/-
  Settings of a pool: three bases and the changes made to them.

  Some sizes are given per processor and become numbers only on a machine
  (`Size.resolve`).  The dump of settings exists once every size is a plain
  number.
-/
import WorkerPool.Text.Dump

namespace WorkerPool

/-- A size: a plain number, or so many per processor. -/
inductive Size where
  | exactly (n : Nat)
  | perProcessor (k : Nat)
  deriving DecidableEq, Repr

namespace Size

/-- The number on a machine with so many processors. -/
def resolve (processors : Nat) : Size → Nat
  | exactly n => n
  | perProcessor k => k * processors

/-- The number, if it does not depend on the machine. -/
def plain? : Size → Option Nat
  | exactly n => some n
  | perProcessor _ => none

end Size

/-- The interval between two idle reports where none is set: ten seconds. -/
def defaultReportInterval : Nat := 10 * Nat.pow 10 9

/-- What a pool is made with. -/
structure Settings where
  workers : Size
  /-- `none` for a backlog without bound -/
  capacity : Option Size
  threadName : String
  stackSize : Option Nat
  /-- in nanoseconds -/
  reportInterval : Nat
  /-- whether each worker runs a hook when it starts -/
  hooked : Bool
  deriving DecidableEq, Repr

namespace Settings

/-- One worker per processor and a backlog without bound. -/
def standard : Settings where
  workers := .perProcessor 1
  capacity := none
  threadName := "task-pool"
  stackSize := none
  reportInterval := defaultReportInterval
  hooked := false

/-- For work that keeps the processors busy: a backlog of ten tasks per
    processor. -/
def cpuBound : Settings := { standard with capacity := some (.perProcessor 10) }

/-- For work that mostly waits: two workers per processor. -/
def ioBound : Settings := { standard with workers := .perProcessor 2 }

/-- One change of the settings. -/
inductive Change where
  | workers (n : Nat)
  | capacity (n : Nat)
  | threadName (name : String)
  | stackSize (n : Nat)
  | reportInterval (ns : Nat)
  | hook
  deriving DecidableEq, Repr

/-- One change made. -/
def change (s : Settings) : Change → Settings
  | .workers n => { s with workers := .exactly n }
  | .capacity n => { s with capacity := some (.exactly n) }
  | .threadName name => { s with threadName := name }
  | .stackSize n => { s with stackSize := some n }
  | .reportInterval ns => { s with reportInterval := ns }
  | .hook => { s with hooked := true }

/-- The changes in their order. -/
def changes (s : Settings) (cs : List Change) : Settings := cs.foldl change s

/-- Whether a machine with so many bytes of memory grants threads with these
    settings: it refuses a stack that the memory could not hold. -/
def grantsThreads (memory : Nat) (s : Settings) : Bool := s.stackSize.all (· < memory)

/-- The dump, once every size is a plain number. -/
def dump? (s : Settings) : Option String := do
  let workers ← s.workers.plain?
  let capacity ← match s.capacity with
    | none => some none
    | some c => c.plain?.map some
  return Text.record "Config"
    [("num_threads", toString workers),
     ("queue_capacity", Text.optional (capacity.map toString)),
     ("thread_name", Text.quoted s.threadName),
     ("stack_size", Text.optional (s.stackSize.map toString)),
     ("idle_report_interval", Text.duration s.reportInterval),
     ("on_worker_start", Text.truth s.hooked)]

end Settings

end WorkerPool
