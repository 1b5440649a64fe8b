/-
  Panics that nobody catches.

  The panic of a body is caught where its task is run, and what it carries is dropped
  there, before the task is counted and its result sent.  If that panics in turn, nothing
  on the way catches it: the task is lost with the sending end of its promise, and what
  ran it, the loop of a worker or a call, ends by the second panic.

  * `State.burst` is such an end of a body;
  * an `Incident` is an action or a burst, and `State.course` a run in which bodies may
    burst.  `State.steps` are the runs in which none does.
-/
import WorkerPool.Pool.Step

namespace WorkerPool

variable {B V : Type}

/-- The task whose body a thread runs, and the thread once the body has burst.  A worker
    goes on to leave and has died, and a call that ran the task inline has panicked with
    this text. -/
def Thread.burst (th : Thread V) (message : String) : Option (TaskId × Thread V) :=
  match th.stack with
  | .task k _ .body :: .work .check :: rest =>
    some (k, { th with stack := .work .leave :: rest, died := true })
  | .task k _ .body :: .inline :: rest =>
    some (k, { th with stack := rest, reply := some (.panicked (.dropped message)) })
  | _ => none

/-- What happens to a pool and to those around it. -/
inductive Incident (B V : Type) where
  | action (x : Action B V)
  /-- the body that a thread runs panics, and what the panic carries panics with this
      text when it is dropped -/
  | burst (t : ThreadId) (message : String)

namespace State

/-- The body that a thread runs bursts: nothing is counted or sent. -/
def burst (s : State B V) (t : ThreadId) (message : String) : Option (State B V) := do
  let (k, th) ← (← s.threads[t]?).burst message
  return (s.abandon k).modifyThread t fun _ => th

/-- One incident, if it is possible. -/
def meet (s : State B V) : Incident B V → Option (State B V)
  | .action x => s.step x
  | .burst t message => s.burst t message

/-- A run in which bodies may burst: incidents one after another. -/
def course (s : State B V) (is : List (Incident B V)) : Option (State B V) := is.foldlM meet s

end State

end WorkerPool
