/-
  The answers of a session and the values they are written as.
-/
import WorkerPool.Binary64
import WorkerPool.Metrics
import WorkerPool.Idle.Histogram
import WorkerPool.Session.Value
import WorkerPool.Outcome

namespace WorkerPool.Session

/-- What a request is answered with. -/
inductive Answer where
  | ok
  | submitted
  | full (capacity : Nat)
  | refused (worker : Nat)
  | count (n : Int)
  | text (s : String)
  | nothing
  | texts (ss : List String)
  | counts (ns : List Nat)
  | cancelled (b : Bool)
  | pending
  | result (r : TaskResult Value)
  | results (rs : List (TaskResult Value))
  | rates (m : Metrics)
  | histogram (h : Idle.Histogram) (probe : Option (List Nat))
  | noPool
  | noHandle
  | noTask
  | unknown
  /-- the operation panicked -/
  | panicked (p : Payload)
  /-- the operation has not returned -/
  | blocked

namespace Answer

open Value (ofNat ofNats ofInt ofTexts)

/-- A float, shown by its bits. -/
def ofFloat (x : Float) : Value := .text (Binary64.hex x)

/-- A refusal by its name. -/
def error (name : String) (more : List (String × Value)) : Value :=
  .record (("error", .text name) :: more)

/-- An error of a task by its kind, a panic with its text. -/
def ofError : TaskError → Value
  | .panicked m => .record [("err", .text "Panic"), ("message", .text m)]
  | .cancelled => .record [("err", .text "Cancelled")]
  | .discarded => .record [("err", .text "Discarded")]
  | .timedOut => .record [("err", .text "Timeout")]

/-- What a handle delivers: the value or the error. -/
def ofResult : TaskResult Value → Value
  | .ok v => .record [("ok", v)]
  | .error e => ofError e

/-- A time in nanoseconds, of which the low 64 bits are shown. -/
def ofTime (ns : Nat) : Value := ofNat (ns % Nat.pow 2 64)

/-- A histogram by its rows, with the time at each probed count. -/
def ofHistogram (h : Idle.Histogram) (probe : Option (List Nat)) : Value :=
  .record ([("total", ofTime h.total),
      ("buckets", .list (h.rows.map fun (i, time) => .list [ofNat i, ofTime time])),
      ("empty", .bool (h == .empty))] ++
    match probe with
    | some idles => [("time_at", .list (idles.map fun idle => ofTime (h.timeAt idle)))]
    | none => [])

/-- A report of the idle monitor, times in seconds. -/
def ofReport (h : Idle.Histogram) : Value :=
  .record [("event", .text "report"),
    ("rows", .list (h.rows.map fun (i, time) =>
      .list [ofNat i, ofFloat (Binary64.seconds time)])),
    ("total", ofFloat (Binary64.seconds h.total))]

/-- An answer as it is written. -/
def toValue : Answer → Value
  | ok => .text "ok"
  | submitted => .text "submitted"
  | full c => error "QueueFull"
      [("capacity", ofNat c), ("message", .text (PoolError.full c).message)]
  | refused w => error "Spawn" [("worker", ofNat w)]
  | count n => ofInt n
  | text s => .text s
  | nothing => .null
  | texts ss => ofTexts ss
  | counts ns => ofNats ns
  | cancelled b => .list [.bool b,
      .text (Text.record "JoinHandle" [("cancelled", Text.truth b)])]
  | pending => .text "pending"
  | result r => ofResult r
  | results rs => .list (rs.map ofResult)
  | rates m => .record [("utilization", ofFloat m.utilization),
      ("queue_pressure", ofFloat m.queuePressure), ("success_rate", ofFloat m.successRate)]
  | histogram h probe => ofHistogram h probe
  | noPool => error "no_pool" []
  | noHandle => error "no_handle" []
  | noTask => error "no_task" []
  | unknown => error "bad_op" []
  | panicked p => error "panic" [("message", .text p.message)]
  | blocked => .text "blocked"

end Answer

end WorkerPool.Session
