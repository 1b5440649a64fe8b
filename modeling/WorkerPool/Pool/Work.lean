/-
  The loop of a worker and the run of a task.

  A worker takes tasks without waiting as long as there are any, and looks
  after each one whether it was told to leave.  With the backlog empty it
  marks itself idle, tells the monitor, and waits for a task, for a graceful
  stop or for its own order to leave; a task in the backlog comes before
  either.

  A task that was cancelled is counted and skipped; any other one runs its
  body, and however that ends, it is counted and its result is sent.  Only a
  burst comes before that (`Pool/Burst`).
-/
import WorkerPool.Pool.State

namespace WorkerPool

variable {B V : Type}

/-! ## Workers -/

/-- Where a worker goes once the monitor knows of its passage. -/
def Shift.after : Shift → WorkPoint
  | settle => .await
  | resume next => .unmark next

/-- A worker begins to run a task and looks at its orders afterwards. -/
def runNext (badge : Badge) (k : TaskId) : List (Activity V) :=
  [.task k badge.id .inspect, .work .check]

namespace State

/-- Tells the monitor of a worker's passage, by a clock reading. -/
def shift (s : State B V) (sh : Shift) (now : Int) : State B V × Option Idle.Histogram :=
  let (monitor, report) := match sh with
    | .settle => s.monitor.enter now
    | .resume _ => s.monitor.leave now
  ({ s with monitor }, report)

/-- The next step of a worker's loop. -/
def work (s : State B V) (t : ThreadId) (badge : Badge) (c : Chance) :
    WorkPoint → Option (Turn B V)
  | .hook => Turn.blocked
  | .fetch =>
    match s.backlog.take? with
    | some (k, backlog) => Turn.go { s with backlog } [.work (.fetched k)]
    | none => Turn.go s [.work .mark]
  | .fetched k =>
    Turn.go { s with backlog := s.backlog.wakeGiver c.pick } (runNext badge k)
  | .check => Turn.go s [.work (if badge.told then .leave else .fetch)]
  | .mark => Turn.go (s.markIdle t true) [.work (.clock .settle)]
  | .clock sh => Turn.go s [.work (.shift sh s.clock)]
  | .shift sh now =>
    match s.shift sh now with
    | (s, some h) => Turn.go s [.work (.report sh h)]
    | (s, none) => Turn.go s [.work sh.after]
  | .report sh h => Turn.go (s.record (.idleReport h)) [.work sh.after]
  | .await =>
    match s.backlog.take? with
    | some (k, backlog) => Turn.go { s with backlog } [.work (.awaited k)]
    | none =>
      if s.done || badge.told then Turn.go s [.work (.clock (.resume none))]
      else Turn.go { s with backlog := s.backlog.sleepTaker t } [.work .await]
  | .awaited k =>
    Turn.go { s with backlog := s.backlog.wakeGiver c.pick } [.work (.clock (.resume (some k)))]
  | .unmark next =>
    Turn.go (s.markIdle t false) (match next with
      | some k => runNext badge k
      | none => [.work .leave])
  | .leave => Turn.go s.release.1 [.discard s.release.2 .done]

/-! ## Tasks -/

/-- The next step in the run of a task, but for the body itself. -/
def runTask (s : State B V) (k : TaskId) (worker : Nat) : TaskPoint V → Option (Turn B V)
  | .inspect =>
    match s.jobs[k]? with
    | some job => Turn.go s [.task k worker (if job.cancelled then .skip else .body)]
    | none => Turn.blocked
  | .skip =>
    Turn.go (s.count fun n => { n with discarded := n.discarded + 1 })
      [.task k worker (.settle (.error .cancelled))]
  | .body => Turn.blocked
  | .tally o =>
    let counted := match o with
      | .returned _ => s.count fun n => { n with completed := n.completed + 1 }
      | .panicked _ => s.count fun n => { n with failed := n.failed + 1 }
    Turn.go counted [.task k worker (.settle o.result)]
  | .settle r => Turn.go (s.settle k r) []

end State

end WorkerPool
