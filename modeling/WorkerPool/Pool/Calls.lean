/-
  The calls of producers and of those who hold handles or tasks.

  `submit` counts the task before it enters the backlog, since a worker may
  finish it before the call returns; `trySubmit` takes the count back if
  there is no room.  A pass that clears the backlog wakes every producer
  before it drops the tasks, and counts them at the end.

  Asking a handle never touches the pool.  Handles that are awaited together
  are polled together, again whenever one of them can answer.
-/
import WorkerPool.Pool.State

namespace WorkerPool

variable {B V : Type}

namespace State

/-! ## Producers -/

/-- The next step of a submission that waits for room. -/
def submit (s : State B V) (t : ThreadId) (c : Chance) (k : TaskId) :
    SubmitPoint → Option (Turn B V)
  | .count =>
    Turn.go (s.count fun n => { n with submitted := n.submitted + 1 }) [.submit k .push]
  | .push =>
    match s.backlog.push? k with
    | some backlog => Turn.go { s with backlog } [.submit k .wake]
    | none => Turn.go { s with backlog := s.backlog.sleepGiver t } [.submit k .push]
  | .wake => Turn.answer { s with backlog := s.backlog.wakeTaker c.pick } (.handle k)

/-- The next step of a submission that does not wait. -/
def trySubmit (s : State B V) (c : Chance) (k : TaskId) :
    TrySubmitPoint → Option (Turn B V)
  | .count =>
    Turn.go (s.count fun n => { n with submitted := n.submitted + 1 }) [.trySubmit k .push]
  | .push =>
    match s.backlog.push? k with
    | some backlog => Turn.go { s with backlog } [.trySubmit k .wake]
    | none => Turn.go s [.trySubmit k .uncount]
  | .wake => Turn.answer { s with backlog := s.backlog.wakeTaker c.pick } (.handle k)
  | .uncount =>
    Turn.go (s.count fun n => { n with submitted := n.submitted - 1 }) [.trySubmit k .refuse]
  | .refuse => Turn.go s [.trySubmit k (.drop s.backlog.capacity)]
  | .drop capacity => Turn.answer (s.abandon k) (.full capacity)

/-! ## The backlog -/

/-- The next step in taking a task out. -/
def pop (s : State B V) (c : Chance) : Option TaskId → Option (Turn B V)
  | none =>
    match s.backlog.take? with
    | some (k, backlog) => Turn.go { s with backlog } [.pop (some k)]
    | none => Turn.answer s (.taken none)
  | some k =>
    Turn.answer { s with backlog := s.backlog.wakeGiver c.pick, taken := k :: s.taken }
      (.taken (some k))

/-- The next step of a clearing pass: where it stands, or how many tasks it
    has thrown away. -/
def sweep (s : State B V) : Clearing → State B V × (Clearing ⊕ Nat)
  | .drain => ({ s with backlog := s.backlog.drain.2 }, .inl (.wake s.backlog.drain.1))
  | .wake ks => ({ s with backlog := s.backlog.wakeGivers }, .inl (.drop ks ks.length))
  | .drop [] n => (s, .inl (.count n))
  | .drop (k :: ks) n => (s.abandon k, .inl (.drop ks n))
  | .count n => (s.count fun m => { m with discarded := m.discarded + n }, .inr n)

/-- The next step of a call that clears the backlog. -/
def clear (s : State B V) (c : Clearing) : Option (Turn B V) :=
  match s.sweep c with
  | (s, .inl c) => Turn.go s [.clear c]
  | (s, .inr n) => Turn.answer s (.count n)

/-- The next step in setting the capacity. -/
def setCapacity (s : State B V) (capacity : Nat) : CapacityPoint → Option (Turn B V)
  | .warn => Turn.go (s.record .capacityClamped) [.setCapacity capacity .set]
  | .set => Turn.go { s with backlog := s.backlog.setCapacity capacity } [.setCapacity capacity .wake]
  | .wake => Turn.answer { s with backlog := s.backlog.wakeGivers } .done

/-- Drops tasks one by one, then answers. -/
def discard (s : State B V) (r : Reply V) : List TaskId → Option (Turn B V)
  | [] => Turn.answer s r
  | k :: ks => Turn.go (s.abandon k) [.discard ks r]

/-! ## Questions -/

/-- A question; the roster can be seen only while nobody holds its lock. -/
def ask (s : State B V) : Query → Option (Turn B V)
  | .size => if s.lock.isSome then Turn.blocked else Turn.answer s (.count s.size)
  | .idle => if s.lock.isSome then Turn.blocked else Turn.answer s (.count s.idleCount)
  | .thread i => if s.lock.isSome then Turn.blocked else Turn.answer s (.name (s.threadName? i))
  | .queued => Turn.answer s (.count s.backlog.tasks.length)
  | .capacity => Turn.answer s (.count s.backlog.capacity)
  | .stopped => Turn.answer s (.flag s.isStopped)
  | .histogram => Turn.answer s (.histogram s.monitor.histogram)

/-- The next part of a snapshot.  What has ended is read before what was
    submitted. -/
def measure (s : State B V) (m : Metrics) : Gauge → Option (Turn B V)
  | .roster =>
    if s.lock.isSome then Turn.blocked
    else Turn.go s [.measure .completed { m with workers := s.size, idle := s.idleCount }]
  | .completed => Turn.go s [.measure .failed { m with completed := s.counters.completed }]
  | .failed => Turn.go s [.measure .discarded { m with failed := s.counters.failed }]
  | .discarded => Turn.go s [.measure .queued { m with discarded := s.counters.discarded }]
  | .queued => Turn.go s [.measure .capacity { m with queued := s.backlog.tasks.length }]
  | .capacity => Turn.go s [.measure .submitted { m with capacity := s.backlog.capacity }]
  | .submitted => Turn.answer s (.metrics { m with submitted := s.counters.submitted })

/-! ## Handles -/

/-- Whether the cancellation of a task was asked for. -/
def isCancelled (s : State B V) (k : TaskId) : Bool := s.jobs[k]?.any (·.cancelled)

/-- Whether the promise of a task would not answer yet. -/
def isPending (s : State B V) (k : TaskId) : Bool :=
  s.jobs[k]?.any fun job => job.promise.isOpen && !job.promise.spent

/-- Puts a promise in the place of the one a task had. -/
def setPromise (s : State B V) (k : TaskId) (p : Promise (TaskResult V)) : State B V :=
  s.modifyJob k ({ · with promise := p })

/-- Polls the promise of a task. -/
def pollJob (s : State B V) (k : TaskId) : State B V × Poll (TaskResult V) :=
  match s.jobs[k]? with
  | none => (s, .misuse)
  | some job =>
    let (p, answer) := job.promise.poll (.error .discarded)
    (s.setPromise k p, answer)

/-- Asks a handle. -/
def receive (s : State B V) (k : TaskId) : Asking → Option (Turn B V)
  | .once =>
    match s.jobs[k]? with
    | none => Turn.blocked
    | some job =>
      let (p, answer) := job.promise.tryTake (.error .discarded)
      Turn.answer (s.setPromise k p) ((answer.map Reply.result).getD .pending)
  | .poll =>
    match s.pollJob k with
    | (s, .pending) => Turn.answer s .pending
    | (s, .ready r) => Turn.answer s (.result r)
    | (s, .misuse) => Turn.answer s (.panicked .spentHandle)
  | .wait | .deadline =>
    match s.pollJob k with
    | (_, .pending) => Turn.blocked
    | (s, .ready r) => Turn.answer s (.result r)
    | (s, .misuse) => Turn.answer s (.panicked .spentHandle)

/-- Polls every handle that has not answered yet; nothing if one is
    misused. -/
def pollSlots (s : State B V) : List (Slot V) → Option (State B V × List (Slot V))
  | [] => some (s, [])
  | .got r :: slots => do
    let (s, slots) ← s.pollSlots slots
    return (s, .got r :: slots)
  | .waiting k :: slots =>
    match s.pollJob k with
    | (_, .misuse) => none
    | (s, .pending) => do
      let (s, slots) ← s.pollSlots slots
      return (s, .waiting k :: slots)
    | (s, .ready r) => do
      let (s, slots) ← s.pollSlots slots
      return (s, .got r :: slots)

/-- Whether a handle awaited with others can still be waited for. -/
def stillWaits (s : State B V) : Slot V → Bool
  | .waiting k => s.isPending k
  | .got _ => true

/-- The next step of a wait for several handles. -/
def joinAll (s : State B V) (slots : List (Slot V)) : Option (Turn B V) :=
  match slots.mapM Slot.result? with
  | some rs => Turn.answer s (.results rs)
  | none =>
    if slots.all s.stillWaits then Turn.blocked
    else match s.pollSlots slots with
      | none => Turn.answer s (.panicked .spentHandle)
      | some (s, slots) => Turn.go s [.joinAll slots]

end State

end WorkerPool
