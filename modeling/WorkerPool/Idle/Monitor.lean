/-
  The idle monitor: it is told how many workers are idle and books the time
  in a histogram, which it gives away as a report once per interval.

  Clock readings are integers in nanoseconds and need not be ordered.  A
  change of the count books the time since the last change at the previous
  count (nothing if the clock went back) and moves the time of the last
  change to the reading in any case.  Then, whether the count changed or
  not, a reading at least an interval after the last report makes a report.
-/
import WorkerPool.Idle.Histogram

namespace WorkerPool.Idle

/-- What the monitor knows: the count of idle workers, since when it has held, when it last
    gave a report away, and the times booked since then. -/
structure Monitor where
  /-- nanoseconds between two reports -/
  interval : Nat
  /-- the number of idle workers -/
  current : Nat
  changedAt : Int
  reportedAt : Int
  histogram : Histogram
  deriving DecidableEq, Repr

/-- The time from one reading to another, nothing if the clock went back. -/
def elapsed (since now : Int) : Nat := (now - since).toNat

namespace Monitor

/-- A monitor created at a clock reading. -/
def start (interval : Nat) (now : Int) : Monitor where
  interval := interval
  current := 0
  changedAt := now
  reportedAt := now
  histogram := .empty

/-- Books the time up to now at the count that held until now. -/
def book (m : Monitor) (idle : Nat) (now : Int) : Monitor :=
  if idle = m.current then m
  else
    { m with
      current := idle
      changedAt := now
      histogram := m.histogram.add m.current (elapsed m.changedAt now) }

/-- Whether a reading is at least an interval after the last report. -/
def isDue (m : Monitor) (now : Int) : Bool := m.interval ≤ elapsed m.reportedAt now

/-- The number of idle workers is now `idle`; the report if one is due. -/
def set (m : Monitor) (idle : Nat) (now : Int) : Monitor × Option Histogram :=
  let m := m.book idle now
  if m.isDue now then
    ({ m with reportedAt := now, histogram := .empty }, some m.histogram)
  else (m, none)

/-- One more worker is idle.  The count is a number without bound: one in 64 bits would
    overflow only after `set` has told the monitor of `2 ^ 64 - 1` idle workers. -/
def enter (m : Monitor) (now : Int) : Monitor × Option Histogram :=
  m.set (m.current + 1) now

/-- One worker less is idle; the count stays at zero. -/
def leave (m : Monitor) (now : Int) : Monitor × Option Histogram :=
  m.set (m.current - 1) now

end Monitor

end WorkerPool.Idle
