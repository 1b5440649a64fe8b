/-
  The calls that change the roster: resizing, stopping, and the two ends of
  a pool's life.

  The roster has a lock.  Resizing holds it from beginning to end.  A stop
  holds it until it has emptied the roster and waits for the workers
  afterwards, so that other calls go on meanwhile; it does not wait for the
  thread it runs on.

  * A graceful stop after any stop, and a forced stop after a forced stop,
    change nothing.
  * A forced stop tells every worker to leave and throws the backlog away
    before it waits; both kinds throw away what is left at the end.
  * A roster that no memory could hold, and a thread whose name holds a NUL,
    make a resize panic.  What it has done until then stays.
  * Building a pool is a resize from nothing; if it fails, and at the end of
    every pool, comes a graceful stop.
-/
import WorkerPool.Pool.Calls

namespace WorkerPool

variable {B V : Type}

/-- The largest roster that memory could hold: a block has less than 2^63
    bytes, and the entry of a worker takes 48. -/
def rosterLimit : Nat := (Nat.pow 2 63 - 1) / 48

/-- Where a growing roster goes on: with the next worker, or at the end. -/
def ResizePoint.grow (workers id start : Nat) : ResizePoint :=
  if id < workers then .spawn id start else .close start

/-- What it takes to end a pool, and the answer given afterwards. -/
def Activity.ending (r : Reply V) : List (Activity V) := [.stop true .enter, .teardown r]

namespace State

/-! ## Resizing -/

/-- The next step in bringing the roster to a number of workers. -/
def resize (s : State B V) (t : ThreadId) (c : Chance) (workers : Nat) :
    ResizePoint → Option (Turn B V)
  | .enter =>
    if s.lock.isSome then Turn.blocked
    else if s.isStopped then Turn.answer s .done
    else if workers < s.size then
      Turn.go { s with lock := some t, roster := s.roster.take workers }
        [.resize workers (.tell (s.roster.drop workers) s.size)]
    else if rosterLimit < workers then Turn.answer s (.panicked .rosterOverflow)
    else Turn.go { s with lock := some t } [.resize workers (.grow workers s.size s.size)]
  | .spawn id start =>
    if (s.threadName id).toList.contains '\x00' then
      Turn.answer { s with lock := none } (.panicked (.nulInName (s.threadName id)))
    else if c.granted then
      Turn.go (s.spawn id) [.resize workers (.grow workers (id + 1) start)]
    else Turn.answer { s with lock := none } (.refused id)
  | .tell [] start => Turn.go s [.resize workers (.wake start)]
  | .tell (u :: us) start => Turn.go (s.tell u) [.resize workers (.tell us start)]
  | .wake start =>
    Turn.go { s with backlog := s.backlog.wakeAll } [.resize workers (.close start)]
  | .close start =>
    let s := if start = workers then s else s.record (.resized start workers)
    Turn.answer { s with lock := none } .done

/-! ## Stopping -/

/-- Waits for the end of a worker; a panic it ended by is logged.  A thread
    does not wait for itself. -/
def join (s : State B V) (t u : ThreadId) : Option (State B V) :=
  if u = t then some s
  else match s.threads[u]? with
    | none => some s
    | some th =>
      if !th.hasEnded then none
      else if th.died then some (s.record (.workerPanicked ((th.badge.map Badge.id).getD 0)))
      else some s

/-- The next step of a stop. -/
def stop (s : State B V) (t : ThreadId) (graceful : Bool) : StopPoint → Option (Turn B V)
  | .enter =>
    if s.lock.isSome then Turn.blocked
    else if graceful then
      if s.isStopped then Turn.answer s .done
      else Turn.go { s with lock := some t, done := true } [.stop graceful .wake]
    else
      if s.forced then Turn.answer s .done
      else Turn.go { s with lock := some t, forced := true } [.stop graceful (.tell s.roster)]
  | .tell [] => Turn.go s [.stop graceful (.purge .drain)]
  | .tell (u :: us) => Turn.go (s.tell u) [.stop graceful (.tell us)]
  | .purge c =>
    match s.sweep c with
    | (s, .inl c) => Turn.go s [.stop graceful (.purge c)]
    | (s, .inr _) => Turn.go s [.stop graceful .wake]
  | .wake => Turn.go { s with backlog := s.backlog.wakeAll } [.stop graceful .disband]
  | .disband =>
    Turn.go { s with lock := none, roster := [] } [.stop graceful (.join s.roster s.size)]
  | .join [] joined => Turn.go s [.stop graceful (.inspect joined)]
  | .join (u :: us) joined =>
    match s.join t u with
    | none => Turn.blocked
    | some s => Turn.go s [.stop graceful (.join us joined)]
  | .inspect joined =>
    Turn.go s [.stop graceful
      (if s.backlog.tasks.isEmpty then .close joined 0 else .sweep .drain joined)]
  | .sweep c joined =>
    match s.sweep c with
    | (s, .inl c) => Turn.go s [.stop graceful (.sweep c joined)]
    | (s, .inr n) => Turn.go s [.stop graceful (.close joined n)]
  | .close joined discarded =>
    Turn.answer (s.record (.stopped graceful joined discarded)) .done

/-! ## The two ends -/

/-- A roster that no memory could hold ends the pool before there is
    anything to stop. -/
def reserve (s : State B V) (workers : Nat) : Option (Turn B V) :=
  if rosterLimit < workers then
    Turn.go { s with life := .dropped } [.teardown (.panicked .rosterOverflow)]
  else Turn.go s [.resize workers .enter, .build workers]

/-- The pool stands once its first workers do; if one was refused or could
    not be named, the pool is ended and the failure passed on. -/
def build (s : State B V) (workers : Nat) : Option (Reply V) → Option (Turn B V)
  | some (.refused id) => Turn.go { s with life := .dropped } (Activity.ending (.refused id))
  | some (.panicked p) => Turn.go { s with life := .dropped } (Activity.ending (.panicked p))
  | _ =>
    Turn.answer { s.record (.created workers s.backlog.capacity) with life := .serving } .done

/-- The pool gives back its own share. -/
def teardown (s : State B V) (r : Reply V) : Option (Turn B V) :=
  Turn.go s.release.1 [.discard s.release.2 r]

/-- A pool that one thread from outside has begun to build. -/
def founding (name : String) (hooked : Bool) (capacity : Option Nat) (interval : Nat)
    (workers : Nat) : State B V where
  name := name
  hooked := hooked
  backlog := .ofCapacity (capacity.getD unboundedCapacity)
  counters := ⟨0, 0, 0, 0⟩
  done := false
  forced := false
  monitor := .start interval 0
  clock := 0
  roster := []
  lock := none
  jobs := []
  threads := [{ Thread.outside with stack := [.reserve workers] }]
  taken := []
  sharers := 1
  life := .building
  log := if capacity = some 0 then [.capacityClamped] else []

end State

end WorkerPool
