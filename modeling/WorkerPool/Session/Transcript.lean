/-
  A session as it is written down: one record per step, with the log split
  into events and idle reports.

  What is empty is left out, and so are idle reports without rows.
-/
import WorkerPool.Session.Run

namespace WorkerPool.Session

open Value (ofNat ofTexts)

/-! ## The log -/

/-- A line of the log as an event of the pool with a name. -/
def eventOf (name : String) : Record → Option Value
  | .created workers capacity => some (.record
      [("event", .text "created"), ("pool", .text name), ("workers", ofNat workers),
       ("capacity", ofNat capacity)])
  | .resized start stop => some (.record
      [("event", .text "resized"), ("pool", .text name), ("from", ofNat start),
       ("to", ofNat stop)])
  | .stopped graceful joined discarded => some (.record
      [("event", .text "stopped"), ("pool", .text name), ("graceful", .bool graceful),
       ("joined", ofNat joined), ("discarded", ofNat discarded)])
  | .capacityClamped => some (.record [("event", .text "capacity_clamped")])
  | .workerPanicked id => some (.record
      [("event", .text "worker_panicked"), ("worker", ofNat id)])
  | .idleReport _ => none

/-- A line of the log as an idle report, if it has rows. -/
def reportOf : Record → Option Value
  | .idleReport h => if h.rows.isEmpty then none else some (Answer.ofReport h)
  | _ => none

/-! ## Steps -/

namespace Observation

/-- The pool in numbers. -/
def poolFields : Option (Metrics × Bool) → List (String × Value)
  | some (m, stopped) =>
    [("size", ofNat m.workers), ("idle", ofNat m.idle), ("queued", ofNat m.queued),
     ("capacity", ofNat m.capacity), ("submitted", ofNat m.submitted),
     ("completed", ofNat m.completed), ("failed", ofNat m.failed),
     ("discarded", ofNat m.discarded), ("stopped", .bool stopped)]
  | none => []

/-- A field that is left out if its list is empty. -/
def listField (name : String) : List Value → List (String × Value)
  | [] => []
  | vs => [(name, .list vs)]

/-- An observation as it is written. -/
def toValue (name : String) (o : Observation) : Value :=
  .record (
    [("result", o.result.getD Answer.blocked.toValue)] ++
    listField "unblocked" (o.unblocked.map fun (step, v) => .list [ofNat step, v]) ++
    listField "events" (o.records.filterMap (eventOf name)) ++
    listField "reports" (o.records.filterMap reportOf) ++
    [("state", .record (
      [("running", ofTexts o.running), ("alive", ofNat o.alive), ("held", ofNat o.held)] ++
      poolFields o.pool))])

end Observation

/-- A whole session. -/
def Plan.write (p : Plan) (rs : List Request) : Value :=
  .record [("steps", .list ((transcript p rs).map (·.toValue p.settings.threadName)))]

end WorkerPool.Session
