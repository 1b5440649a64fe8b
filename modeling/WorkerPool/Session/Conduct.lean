/-
  The script of every request and of every body.

  * `Request.script` is the conduct of a thread that carries out a request;
  * `TaskSpec.script` and `Body.script` are the conduct of a worker in the
    body of a task.

  A request on the pool borrows a reference for as long as it lasts
  (`onPool`).  A handle that is waited for is given up first.  A call that
  panics makes the request panic, once a borrowed reference is given back.
-/
import WorkerPool.Session.Answer
import WorkerPool.Session.Script

namespace WorkerPool.Session

open Script (ask read change update waitFor)

/-! ## The pool -/

/-- Gives a borrowed reference back, and drops the pool if it was the last. -/
def giveBack : Script Unit := do
  if ← update World.giveBack then
    let _ ← ask .drop

/-- Does something on the pool, if the session still holds it.  A panic gives
    the reference back on its way out. -/
def onPool (script : Script Answer) : Script Answer := do
  if ← update World.borrow then
    let answer ← script
    giveBack
    match answer with
    | .panicked p => .crash p
    | answer => return answer
  else
    return .noPool

/-- The answer to a submission; the handle is kept under a name. -/
def keepSubmitted (id : String) (reply : Reply Value) : Script Answer := do
  match reply with
  | .handle k =>
    change (·.keepHandle id k)
    return .submitted
  | .full capacity => return .full capacity
  | _ => return .nothing

/-- Submits numbered tasks, `left` of them, from number `i` on. -/
def submitEach (id : String) (task : TaskSpec) (i : Nat) : (left : Nat) → Script Answer
  | 0 => return .submitted
  | left + 1 => do
    let name := id ++ toString i
    let _ ← keepSubmitted name (← ask (.submit ⟨name, task, none⟩))
    submitEach id task (i + 1) left

/-- Takes a task out and keeps it under a name; one that was kept under that
    name is dropped. -/
def popAs (id : String) : Script Answer := do
  match ← ask .pop with
  | .taken (some k) =>
    let older ← read (·.taken? id)
    change (·.keepTaken id k)
    if let some older := older then
      let _ ← ask (.dropTaken older)
    return .text "Task \x7b .. \x7d"
  | _ => return .nothing

/-- The dump of the pool: its name, how many workers and tasks it has, and
    whether it was stopped. -/
def dumpPool (name : String) : Script Answer := do
  let size ← ask (.ask .size)
  let queued ← ask (.ask .queued)
  let stopped ← ask (.ask .stopped)
  match size, queued, stopped with
  | .count size, .count queued, .flag stopped =>
    return .text (Text.record "ThreadPool"
      [("name", Text.quoted name), ("size", toString size), ("queued", toString queued),
       ("stopped", Text.truth stopped)])
  | _, _, _ => return .nothing

/-- The answer that goes with a plain reply of the pool. -/
def plainAnswer : Reply Value → Answer
  | .done => .ok
  | .refused id => .refused id
  | .count n => .count n
  | .name (some s) => .text s
  | .metrics m => .rates m
  | .panicked p => .panicked (.text p.message)
  | _ => .nothing

/-- Lets go of the session's own reference. -/
def dropPool : Script Answer := do
  if ← read (·.holds) then
    change World.letGo
    giveBack
    return .ok
  else
    return .noPool

/-! ## Handles -/

/-- What a handle has answered. -/
def received : Reply Value → Script Answer
  | .result r => return .result r
  | .results rs => return .results rs
  | .pending => return .pending
  | .panicked p => .crash (.text p.message)
  | _ => return .nothing

/-- Does something with the handle kept under a name. -/
def withHandle (id : String) (f : TaskId → Script Answer) : Script Answer := do
  match ← read (·.handle? id) with
  | some k => f k
  | none => return .noHandle

/-- Gives the handle up, then asks it. -/
def consume (id : String) (how : Asking) : Script Answer :=
  withHandle id fun k => do
    change (·.dropHandle id)
    received (← ask (.receive k how))

/-- Polls the handle once; it stays while there is no result. -/
def pollOnce (id : String) : Script Answer :=
  withHandle id fun k => do
    match ← ask (.receive k .poll) with
    | .pending => return .pending
    | reply =>
      change (·.dropHandle id)
      received reply

/-- Asks the handle without waiting; it stays. -/
def tryOnce (id : String) : Script Answer :=
  withHandle id fun k => do
    match ← ask (.receive k .once) with
    | .result r => return .result r
    | _ => return .nothing

/-- Gives up those of the named handles that are kept, in order. -/
def collect : List String → Script (List TaskId)
  | [] => return []
  | id :: ids => do
    match ← read (·.handle? id) with
    | some k =>
      change (·.dropHandle id)
      return k :: (← collect ids)
    | none => collect ids

/-- Waits for all those of the named handles that are kept. -/
def joinAll (ids : List String) : Script Answer := do
  received (← ask (.joinAll (← collect ids)))

/-! ## Tasks taken out -/

/-- Does something with the task kept under a name, which is given up. -/
def withTaken (id : String) (call : TaskId → Call Body) : Script Answer := do
  match ← read (·.taken? id) with
  | some k =>
    change (·.dropTaken id)
    let _ ← ask (call k)
    return .ok
  | none => return .noTask

/-! ## Requests -/

/-- The conduct of a thread that carries out a request on a pool with a
    name. -/
def Request.script (name : String) : Request → Script Answer
  | submit id task => onPool do keepSubmitted id (← ask (.submit ⟨id, task, none⟩))
  | submitWith id task arg => onPool do keepSubmitted id (← ask (.submit ⟨id, task, some arg⟩))
  | trySubmit id task => onPool do keepSubmitted id (← ask (.trySubmit ⟨id, task, none⟩))
  | submitMany id n task => onPool (submitEach id task 0 n)
  | resize n => onPool do return plainAnswer (← ask (.resize n))
  | stop graceful => onPool do return plainAnswer (← ask (.stop graceful))
  | clear => onPool do return plainAnswer (← ask .clear)
  | setCapacity n => onPool do return plainAnswer (← ask (.setCapacity n))
  | pop id => onPool (popAs id)
  | thread n => onPool do return plainAnswer (← ask (.ask (.thread n)))
  | dump => onPool (dumpPool name)
  | rates => onPool do return plainAnswer (← ask .metrics)
  | histogram probe => onPool do
    match ← ask (.ask .histogram) with
    | .histogram h => return .histogram h probe
    | _ => return .nothing
  | wait id => consume id .wait
  | awaitTimeout id => consume id .deadline
  | poll id => pollOnce id
  | tryWait id => tryOnce id
  | cancel id => withHandle id fun k => do
    let _ ← ask (.cancel k)
    return .ok
  | isCancelled id => withHandle id fun k => do
    match ← ask (.isCancelled k) with
    | .flag b => return .cancelled b
    | _ => return .nothing
  | dropHandle id => withHandle id fun _ => do
    change (·.dropHandle id)
    return .ok
  | joinAll ids => Session.joinAll ids
  | joinMany id n => Session.joinAll ((List.range n).map fun i => id ++ toString i)
  | runTaken id worker => withTaken id (.runTaken · worker)
  | dropTaken id => withTaken id .dropTaken
  | openGate gate => do
    change (·.openGate gate)
    return .ok
  | advance ns => .pass ns (return .ok)
  | log => return .texts (← read (·.begun))
  | runningWorkers => return .counts ((← read (·.running)).map (·.worker) |>.mergeSort)
  | startedWorkers => return .counts ((← read (·.started)).mergeSort)
  | counter => return .count (← read (·.counter))
  | dropPool => Session.dropPool
  | unknown => onPool (return .unknown)

/-! ## Bodies -/

mutual

/-- The conduct of a worker that does what a task says. -/
def TaskSpec.script (name : String) (worker : Nat) : TaskSpec → Script Value
  | .value v => return v
  | .fail v => return .record [("Err", v)]
  | .worker => return .ofNat worker
  | .count n => do
    change (·.add n)
    return .null
  | .add n => do
    let before ← update fun w => (w.add n, w.counter)
    return .record [("before", .ofInt before)]
  | .panic p => .crash p
  | .gate g next => do
    waitFor (·.isOpen g)
    next.script name worker
  | .seq ts => do return .list (← TaskSpec.scripts name worker ts)
  | .request r => do return (← r.script name).toValue
  | .nothing => return .null

/-- The conduct of a worker that does several things in their order. -/
def TaskSpec.scripts (name : String) (worker : Nat) : List TaskSpec → Script (List Value)
  | [] => return []
  | t :: ts => do
    let v ← t.script name worker
    return v :: (← TaskSpec.scripts name worker ts)

end

/-- The conduct of a worker in a body; an argument is returned beside the
    value. -/
def Body.script (name : String) (worker : Nat) (b : Body) : Script Value := do
  let v ← b.spec.script name worker
  match b.arg with
  | none => return v
  | some arg => return .list [v, arg]

end WorkerPool.Session
