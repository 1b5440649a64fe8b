/-
  Scripts: what a thread of a session does between its calls on the pool.

  A script is a tree of what it asks for.  It ends with a result or with a
  panic; before that it calls the pool and goes on with the reply, looks at
  the session's world and changes it, or moves the clock.  Looking at the
  world may fail for the time being, and then the script waits.
-/
import WorkerPool.Pool.Activity
import WorkerPool.Session.Request
import WorkerPool.Session.World

namespace WorkerPool.Session

/-- A script with a result of this type. -/
inductive Script (α : Type) : Type 1 where
  | done (a : α)
  | crash (p : Payload)
  | call (c : Call Body) (next : Reply Value → Script α)
  | look {β : Type} (f : World → Option (World × β)) (next : β → Script α)
  | pass (ns : Int) (next : Script α)

namespace Script

variable {α β : Type}

/-- One script after another; a panic ends both. -/
def bind : Script α → (α → Script β) → Script β
  | done a, f => f a
  | crash p, _ => crash p
  | call c next, f => call c fun r => (next r).bind f
  | look g next, f => look g fun b => (next b).bind f
  | pass ns next, f => pass ns (next.bind f)

/-- Scripts one after another. -/
instance : Monad Script where
  pure := done
  bind := bind

/-- Calls the pool. -/
def ask (c : Call Body) : Script (Reply Value) := call c done

/-- Reads the world. -/
def read (f : World → α) : Script α := look (fun w => some (w, f w)) done

/-- Changes the world. -/
def change (f : World → World) : Script Unit := look (fun w => some (f w, ())) done

/-- Changes the world and reads it. -/
def update (f : World → World × α) : Script α := look (fun w => some (f w)) done

/-- Waits until the world is as it should be. -/
def waitFor (p : World → Bool) : Script Unit :=
  look (fun w => if p w then some (w, ()) else none) done

end Script

end WorkerPool.Session
