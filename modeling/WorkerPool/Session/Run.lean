/-
  The run of a session: requests one after another, each on a thread of its
  own, and all threads to rest after each.

  A thread of the pool that is free follows a script, and so does a worker
  in a body; `Session.turn` is the next step of a thread, of the pool where
  the thread is in the middle of something and of its script otherwise.
  Every step is an action of the pool or a look at the world, so a session
  is one of the runs of `Pool/Step`: of the threads that can move, the one that
  has stood still longest goes first and goes on as long as it can.  The
  longest sleeper is woken, and a wait with a deadline expires as soon as it
  would block.

  * `Session.settle` runs until nothing moves;
  * `Session.perform` carries out one request;
  * `Session.transcript` is what is observed after each.
-/
import WorkerPool.Pool.Step
import WorkerPool.Session.Conduct
import WorkerPool.Settings

namespace WorkerPool.Session

/-! ## How much a request can set in motion -/

mutual

/-- How many operations a body can make, those of the tasks it submits
    included. -/
def TaskSpec.weight : TaskSpec → Nat
  | .gate _ next => 1 + next.weight
  | .seq ts => 1 + TaskSpec.weights ts
  | .request r => 1 + r.weight
  | _ => 1

/-- The weights of several tasks together. -/
def TaskSpec.weights : List TaskSpec → Nat
  | [] => 0
  | t :: ts => t.weight + TaskSpec.weights ts

/-- How many operations a request can set in motion. -/
def Request.weight : Request → Nat
  | .submit _ task => 1 + task.weight
  | .submitWith _ task _ => 1 + task.weight
  | .trySubmit _ task => 1 + task.weight
  | .submitMany _ n task => 1 + n * (1 + task.weight)
  | .resize n => 1 + n
  | .joinAll ids => 1 + ids.length
  | .joinMany _ n => 1 + n
  | _ => 1

end

/-! ## Sessions -/

/-- Where a script stands: it goes on, or waits for the reply to a call. -/
inductive Progress : Type 1 where
  | going (script : Script Value)
  | calling (next : Reply Value → Script Value)

/-- A script that a thread follows, in the body of a task or outside. -/
structure Frame : Type 1 where
  task : Option TaskId
  progress : Progress

end Session

/-- A pool and its one client. -/
structure Session : Type 1 where
  pool : State Session.Body Session.Value
  world : Session.World
  /-- the threads in the order of their turns -/
  turns : List ThreadId
  /-- the scripts that each thread follows, the innermost first -/
  scripts : List (ThreadId × List Session.Frame)
  /-- the threads of the requests, with the numbers of their steps -/
  requests : List (ThreadId × Nat)
  /-- the requests that have returned, with their results -/
  results : List (Nat × Session.Value)
  /-- the ids of the workers whose start hooks panic -/
  doomed : List Nat
  /-- whether the system grants threads -/
  grants : Bool

namespace Session

/-! ## The next step of a thread -/

/-- The scripts that a thread follows, the innermost first. -/
def frames (s : Session) (t : ThreadId) : List Frame := (s.scripts.lookup t).getD []

/-- Puts other scripts in their place. -/
def setFrames (s : Session) (t : ThreadId) (fs : List Frame) : Session :=
  { s with scripts := (t, fs) :: s.scripts.filter (·.1 != t) }

/-- An action of the pool. -/
def act (s : Session) (a : Action Body Value) : Option Session :=
  (s.pool.step a).map fun pool => { s with pool }

/-- The next atomic step of a thread of the pool. -/
def run (s : Session) (t : ThreadId) : Option Session := s.act (.run t ⟨0, s.grants⟩)

/-- A script has ended, in a body or outside. -/
def conclude (s : Session) (t : ThreadId) (rest : List Frame) (o : Outcome Value) :
    Option TaskId → Option Session
  | some k =>
    { s.setFrames t rest with world := s.world.endBody k }.act (.finish t o)
  | none =>
    let result := match o with
      | .returned v => v
      | .panicked p => (Answer.panicked p).toValue
    (s.requests.lookup t).map fun step =>
      { s.setFrames t rest with results := s.results ++ [(step, result)] }

/-- The next step of the innermost script of a thread. -/
def follow (s : Session) (t : ThreadId) (reply : Option (Reply Value)) (f : Frame)
    (rest : List Frame) : Option Session :=
  let goOn (s : Session) (script : Script Value) : Session :=
    s.setFrames t (⟨f.task, .going script⟩ :: rest)
  match f.progress with
  | .calling next => reply.map fun r => goOn s (next r)
  | .going (.call c next) =>
    (s.setFrames t (⟨f.task, .calling next⟩ :: rest)).act (.call t c)
  | .going (.look g next) =>
    (g s.world).map fun (world, b) => goOn { s with world } (next b)
  | .going (.pass ns next) => (goOn s next).act (.tick ns)
  | .going (.done v) => s.conclude t rest (.returned v) f.task
  | .going (.crash p) => s.conclude t rest (.panicked p) f.task

/-- A worker enters the body of a task. -/
def enterBody (s : Session) (t : ThreadId) (k : TaskId) (worker : Nat) : Option Session :=
  s.pool.jobs[k]?.map fun job =>
    let script := job.body.script s.pool.name worker
    { s.setFrames t (⟨some k, .going script⟩ :: s.frames t) with
      world := s.world.beginBody ⟨k, job.body.id, worker⟩ }

/-- The next step of a thread. -/
def turn (s : Session) (t : ThreadId) : Option Session :=
  match s.pool.threads[t]? with
  | none => none
  | some th =>
    match th.stack, s.frames t with
    | .task k worker .body :: _, f :: rest =>
      if f.task == some k then s.follow t th.reply f rest else s.enterBody t k worker
    | .task k worker .body :: _, [] => s.enterBody t k worker
    | .work .hook :: _, _ =>
      let id := (th.badge.map Badge.id).getD 0
      { s with world := { s.world with started := s.world.started ++ [id] } }.act
        (.hook t (s.doomed.contains id))
    | .receive _ .deadline :: _, _ => s.run t <|> s.act (.expire t)
    | [], f :: rest => s.follow t th.reply f rest
    | [], [] => none
    | _ :: _, _ => s.run t

/-! ## To rest -/

/-- Threads that are not among the first `known` have their turns after all
    others. -/
def queueUp (s : Session) (known : Nat) : Session :=
  { s with turns := s.turns ++ (List.range s.pool.threads.length).drop known }

/-- Runs until nothing moves.  The first thread of the queue that can move goes
    on as long as it can and then goes to the end.  Those before it are
    `stuck`, the last one first; `moved` says whether the first thread of the
    queue has just moved. -/
def settle : (fuel : Nat) → (moved : Bool) → (stuck : List ThreadId) → Session → Session
  | 0, _, stuck, s => { s with turns := stuck.reverse ++ s.turns }
  | fuel + 1, moved, stuck, s =>
    match s.turns with
    | [] => { s with turns := stuck.reverse }
    | t :: ts =>
      match s.turn t with
      | some s => settle fuel true stuck (s.queueUp (stuck.length + ts.length + 1))
      | none =>
        if moved then settle fuel false [] { s with turns := stuck.reverse ++ ts ++ [t] }
        else settle fuel false (t :: stuck) { s with turns := ts }

/-- More turns than operations of a total weight can take: each operation
    touches every task and every thread a few times at most, and between two
    steps every thread is tried twice at most. -/
def patience (weight : Nat) : Nat := 64 * Nat.pow (weight + 1) 3

/-! ## Requests -/

/-- Carries out a request on a new thread and waits for rest. -/
def perform (s : Session) (weight step : Nat) (r : Request) : Session :=
  let t := s.pool.threads.length
  match s.act .arrive with
  | none => s
  | some s =>
    let script := Answer.toValue <$> r.script s.pool.name
    settle (patience weight) false []
      { s.setFrames t [⟨none, .going script⟩] with
        turns := t :: s.turns
        requests := (t, step) :: s.requests }

/-- What is asked of a session at its creation. -/
structure Plan where
  settings : Settings
  /-- the processors of the machine -/
  processors : Nat
  /-- the memory of the machine, in bytes -/
  memory : Nat
  /-- the ids of the workers whose start hooks panic -/
  doomed : List Nat

/-- The script of the thread that builds the pool; without a pool there is no
    reference to hold. -/
def founding (reply : Reply Value) : Script Value := do
  match plainAnswer reply with
  | .ok => return Answer.ok.toValue
  | failure =>
    Script.change fun w => { w with holds := false, references := 0 }
    return failure.toValue

/-- A session whose pool is built, or is not to be had. -/
def start (p : Plan) : Session :=
  let workers := p.settings.workers.resolve p.processors
  settle (patience workers) false []
    { pool := .founding p.settings.threadName p.settings.hooked
        (p.settings.capacity.map (·.resolve p.processors)) p.settings.reportInterval workers
      world := .start
      turns := [0]
      scripts := [(0, [⟨none, .calling founding⟩])]
      requests := [(0, 0)]
      results := []
      doomed := p.doomed
      grants := p.settings.grantsThreads p.memory }

/-! ## Observations -/

/-- What is seen of a session at rest after a step. -/
structure Observation where
  /-- the result of the step, if it has returned -/
  result : Option Value
  /-- the earlier steps that have returned since, with their results -/
  unblocked : List (Nat × Value)
  /-- what was logged since -/
  records : List Record
  /-- the ids of the running bodies, sorted -/
  running : List String
  alive : Nat
  /-- how many bodies of tasks there are -/
  held : Nat
  /-- the pool in numbers and whether it was stopped, while the session has
      it -/
  pool : Option (Metrics × Bool)

/-- How many bodies of tasks there are.  A body goes when its promise is
    settled; one with an argument comes only when it starts. -/
def heldCount (s : Session) : Nat :=
  s.pool.jobs.zipIdx.countP fun (job, k) =>
    job.promise.isOpen && (job.body.arg.isNone || s.world.isRunning k)

/-- What is seen after a step, given what was logged and returned before. -/
def observe (s : Session) (step logged : Nat) (returned : List (Nat × Value)) : Observation where
  result := s.results.lookup step
  unblocked := (s.results.drop returned.length).filter (·.1 != step)
    |>.mergeSort fun a b => a.1 ≤ b.1
  records := s.pool.log.drop logged
  running := (s.world.running.map (·.id)).mergeSort fun a b => compare a b != .gt
  alive := if s.pool.hooked then s.pool.aliveCount else 0
  held := s.heldCount
  pool := if s.world.holds then some (s.pool.metrics, s.pool.isStopped) else none

/-- Carries out requests one after another, of the given total weight so
    far, and observes after each. -/
def performAll (s : Session) (weight step : Nat) : List Request → List Observation
  | [] => []
  | r :: rs =>
    let weight := weight + r.weight
    let s' := s.perform weight step r
    s'.observe step s.pool.log.length s.results :: performAll s' weight (step + 1) rs

/-- What is observed of a whole session. -/
def transcript (p : Plan) (rs : List Request) : List Observation :=
  let s := start p
  s.observe 0 0 [] :: s.performAll (p.settings.workers.resolve p.processors) 1 rs

end Session

end WorkerPool
