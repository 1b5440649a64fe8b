/-
  The steps of a pool: every thread takes its next atomic step at any time,
  and the world around acts on its own.

  `State.step` is one action.  `run t c` is the next atomic step of thread
  `t`; a thread that sleeps, waits for a lock, a result or another thread,
  or is in a body or a start hook has none.  All other actions belong to the
  world: a thread appears, begins a call, ends a body or a start hook, gives
  up waiting, wakes of itself, or the clock moves.

  * `State.steps` is a run, a list of actions one after another;
  * `AtRest` says that no thread has a next step.
-/
import WorkerPool.Pool.Roster
import WorkerPool.Pool.Work

namespace WorkerPool

variable {B V : Type}

/-- What can happen in one step of a run. -/
inductive Action (B V : Type) where
  /-- a thread from outside appears -/
  | arrive
  /-- a thread that is free begins a call -/
  | call (t : ThreadId) (c : Call B)
  /-- the body that a thread runs ends -/
  | finish (t : ThreadId) (o : Outcome V)
  /-- the start hook that a worker runs ends, by a panic or not -/
  | hook (t : ThreadId) (panics : Bool)
  /-- a thread takes its next atomic step -/
  | run (t : ThreadId) (c : Chance)
  /-- a wait for a result expires -/
  | expire (t : ThreadId)
  /-- a thread that sleeps wakes of itself -/
  | rouse (t : ThreadId)
  /-- the clock is set on, or back -/
  | tick (ns : Int)

namespace State

/-! ## The next step of a thread -/

/-- The next step of a thread's innermost activity. -/
def act (s : State B V) (t : ThreadId) (th : Thread V) (c : Chance) :
    Activity V → Option (Turn B V)
  | .work p =>
    match th.badge with
    | some badge => s.work t badge c p
    | none => Turn.blocked
  | .task k worker p => s.runTask k worker p
  | .inline => Turn.answer s .done
  | .submit k p => s.submit t c k p
  | .trySubmit k p => s.trySubmit c k p
  | .pop taken => s.pop c taken
  | .clear p => s.clear p
  | .setCapacity capacity p => s.setCapacity capacity p
  | .resize workers p => s.resize t c workers p
  | .stop graceful p => s.stop t graceful p
  | .reserve workers => s.reserve workers
  | .build workers => s.build workers th.reply
  | .teardown r => s.teardown r
  | .discard ks r => s.discard r ks
  | .ask q => s.ask q
  | .measure g m => s.measure m g
  | .cancel k => Turn.answer (s.cancel k) .done
  | .isCancelled k => Turn.answer s (.flag (s.isCancelled k))
  | .receive k how => s.receive k how
  | .joinAll slots => s.joinAll slots

/-- Puts a step into effect on the thread that took it. -/
def settleTurn (t : ThreadId) (turn : Turn B V) : State B V :=
  turn.state.modifyThread t fun th =>
    { th with
      stack := turn.next ++ th.stack.tail
      reply := turn.reply <|> th.reply }

/-- The next atomic step of a thread. -/
def run (s : State B V) (t : ThreadId) (c : Chance) : Option (State B V) :=
  if s.backlog.isAsleep t then none
  else match s.threads[t]? with
    | none => none
    | some th =>
      match th.stack with
      | [] => none
      | a :: _ => (s.act t th c a).map (settleTurn t)

/-! ## Beginning a call -/

/-- The activities that a call begins with, and the state they begin in. -/
def opening (s : State B V) : Call B → Option (State B V × List (Activity V))
  | .submit body =>
    some ({ s with jobs := s.jobs ++ [.ofBody body] }, [.submit s.jobs.length .count])
  | .trySubmit body =>
    some ({ s with jobs := s.jobs ++ [.ofBody body] }, [.trySubmit s.jobs.length .count])
  | .pop => some (s, [.pop none])
  | .clear => some (s, [.clear .drain])
  | .setCapacity capacity =>
    some (s, [.setCapacity capacity (if capacity = 0 then .warn else .set)])
  | .resize workers => some (s, [.resize workers .enter])
  | .stop graceful => some (s, [.stop graceful .enter])
  | .drop => if s.inUse then none else some ({ s with life := .dropped }, Activity.ending .done)
  | .ask q => some (s, [.ask q])
  | .metrics => some (s, [.measure .roster .zero])
  | .cancel k => if k < s.jobs.length then some (s, [.cancel k]) else none
  | .isCancelled k => if k < s.jobs.length then some (s, [.isCancelled k]) else none
  | .receive k how => if k < s.jobs.length then some (s, [.receive k how]) else none
  | .joinAll ks =>
    if ks.all (· < s.jobs.length) then some (s, [.joinAll (ks.map .waiting)]) else none
  | .runTaken k worker =>
    if k ∈ s.taken then
      some ({ s with taken := s.taken.erase k }, [.task k worker .inspect, .inline])
    else none
  | .dropTaken k =>
    if k ∈ s.taken then some ({ s with taken := s.taken.erase k }, [.discard [k] .done])
    else none

/-- A free thread begins a call. -/
def begin (s : State B V) (t : ThreadId) (c : Call B) : Option (State B V) :=
  match s.threads[t]? with
  | none => none
  | some th =>
    if th.isFree && (!c.usesPool || s.life == .serving) then
      (s.opening c).map fun (s, next) =>
        s.modifyThread t fun th => { th with stack := next ++ th.stack, reply := none }
    else none

/-! ## Actions -/

/-- Replaces the innermost activity of a thread. -/
def become (s : State B V) (t : ThreadId) (a : Activity V) : State B V :=
  s.modifyThread t fun th => { th with stack := a :: th.stack.tail }

/-- The innermost activity of a thread. -/
def top? (s : State B V) (t : ThreadId) : Option (Activity V) := do (← s.threads[t]?).stack.head?

/-- One action, if it is possible. -/
def step (s : State B V) : Action B V → Option (State B V)
  | .arrive => some { s with threads := s.threads ++ [.outside] }
  | .call t c => s.begin t c
  | .finish t o =>
    match s.top? t with
    | some (.task k worker .body) => some (s.become t (.task k worker (.tally o)))
    | _ => none
  | .hook t panics =>
    match s.top? t with
    | some (.work .hook) =>
      if panics then some ((s.become t (.work .leave)).modifyThread t ({ · with died := true }))
      else some (s.become t (.work .fetch))
    | _ => none
  | .run t c => s.run t c
  | .expire t =>
    match s.top? t with
    | some (.receive k .deadline) =>
      if s.isPending k then
        some (settleTurn t ⟨s, [], some (.result (.error .timedOut))⟩)
      else none
    | _ => none
  | .rouse t =>
    if s.backlog.isAsleep t then some { s with backlog := s.backlog.rouse t } else none
  | .tick ns => some { s with clock := s.clock + ns }

/-- A run: actions one after another. -/
def steps (s : State B V) (as : List (Action B V)) : Option (State B V) := as.foldlM step s

/-- No thread has a next step. -/
def AtRest (s : State B V) : Prop := ∀ t c, s.run t c = none

end State

end WorkerPool
