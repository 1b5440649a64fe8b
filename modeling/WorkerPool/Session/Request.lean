/-
  What a session can be asked to do.

  A session is one pool with one client.  It knows handles, tasks taken out
  and gates by name.  A `TaskSpec` says what the body of a task does, a
  `Request` is one operation; each may contain the other, since a request
  may submit a task and a task may make a request.
-/
import WorkerPool.Outcome
import WorkerPool.Session.Value

namespace WorkerPool.Session

mutual

/-- What the body of a task does. -/
inductive TaskSpec where
  /-- returns a value -/
  | value (v : Value)
  /-- returns a value marked as an error, which the pool takes for a value -/
  | fail (v : Value)
  /-- returns the id of the worker that runs it -/
  | worker
  /-- adds to the session's counter -/
  | count (n : Int)
  /-- adds to the session's counter and returns what it was before -/
  | add (n : Int)
  | panic (p : Payload)
  /-- waits until a gate is open, then goes on -/
  | gate (name : String) (next : TaskSpec)
  /-- does several things and returns the list of their values -/
  | seq (ts : List TaskSpec)
  /-- makes a request and returns its answer -/
  | request (r : Request)
  | nothing

/-- One operation of a session. -/
inductive Request where
  | submit (id : String) (task : TaskSpec)
  /-- the body gets an argument, and returns it beside its value -/
  | submitWith (id : String) (task : TaskSpec) (arg : Value)
  | trySubmit (id : String) (task : TaskSpec)
  /-- submits so many tasks with numbered ids -/
  | submitMany (id : String) (n : Nat) (task : TaskSpec)
  | resize (n : Nat)
  | stop (graceful : Bool)
  | clear
  | setCapacity (n : Nat)
  | pop (id : String)
  | thread (n : Nat)
  | dump
  | rates
  /-- with the time at each of some numbers of idle workers, if given -/
  | histogram (probe : Option (List Nat))
  | wait (id : String)
  | awaitTimeout (id : String)
  | poll (id : String)
  | tryWait (id : String)
  | cancel (id : String)
  | isCancelled (id : String)
  | dropHandle (id : String)
  | joinAll (ids : List String)
  | joinMany (id : String) (n : Nat)
  | runTaken (id : String) (worker : Nat)
  | dropTaken (id : String)
  | openGate (name : String)
  /-- moves the clock, backwards if negative -/
  | advance (ns : Int)
  | log
  | runningWorkers
  | startedWorkers
  | counter
  | dropPool
  | unknown

end

/-- A task that does nothing. -/
instance : Inhabited TaskSpec := ⟨.nothing⟩

/-- A request that nobody knows. -/
instance : Inhabited Request := ⟨.unknown⟩

/-- The body of a task: its id, what it does, and the argument it was given.
    A body with an argument is made only when it starts. -/
structure Body where
  id : String
  spec : TaskSpec
  arg : Option Value

end WorkerPool.Session
