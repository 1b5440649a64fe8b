/-
  A rehearsal of the idle monitor: a list of calls under a clock that is set
  by hand, and what is seen after each.

  A call may set the clock first, also back; otherwise the clock stays.
-/
import WorkerPool.Idle.Monitor
import WorkerPool.Session.Answer

namespace WorkerPool.Idle

/-- What the monitor is called with. -/
inductive Act where
  | enter
  | leave
  | set (idle : Nat)
  | dump
  | nothing
  deriving DecidableEq, Repr

/-- One call: the reading to set the clock to, the call, and the counts at
    which the histogram is probed afterwards. -/
structure Cue where
  time : Option Int
  act : Act
  probe : Option (List Nat)
  deriving DecidableEq, Repr

namespace Monitor

open Session (Value Answer)

/-- A call at a clock reading: its result, and the report if one was made. -/
def perform (m : Monitor) (now : Int) : Act → Monitor × Option Histogram × Answer
  | .enter => let (m, report) := m.enter now; (m, report, .count m.current)
  | .leave => let (m, report) := m.leave now; (m, report, .count m.current)
  | .set idle => let (m, report) := m.set idle now; (m, report, .nothing)
  | .dump => (m, none, .text m.histogram.dump)
  | .nothing => (m, none, .nothing)

/-- What is seen after each call. -/
def rehearse (m : Monitor) (clock : Int) : List Cue → List Value
  | [] => []
  | cue :: cues =>
    let now := cue.time.getD clock
    let (m, report, answer) := m.perform now cue.act
    .record
      [("result", answer.toValue), ("idle", .ofNat m.current),
       ("histogram", Answer.ofHistogram m.histogram cue.probe),
       ("events", .list (report.toList.map Answer.ofReport))]
      :: m.rehearse now cues

end Monitor

end WorkerPool.Idle
