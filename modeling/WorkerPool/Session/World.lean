/-
  What a session has beside its pool: gates, a counter, the ids of the
  bodies that began, and names for handles and tasks taken out.

  The session holds a reference to its pool until it lets go of it, and every
  operation on the pool borrows one while it lasts.  Whoever gives back the
  last one has the pool to drop.
-/
import WorkerPool.Backlog

namespace WorkerPool.Session

/-- A body that has begun and not ended. -/
structure Running where
  task : TaskId
  id : String
  worker : Nat
  deriving DecidableEq, Repr

/-- What a session keeps beside its pool. -/
structure World where
  /-- the gates that are open -/
  opened : List String
  /-- the ids of the bodies, in the order in which they began -/
  begun : List String
  counter : Int
  running : List Running
  /-- the tasks whose handles are kept, by name -/
  handles : List (String × TaskId)
  /-- the tasks taken out, by name -/
  taken : List (String × TaskId)
  /-- the ids with which start hooks were called -/
  started : List Nat
  /-- whether the session holds its reference -/
  holds : Bool
  references : Nat
  deriving DecidableEq, Repr

namespace World

/-- The world before the first request: the session holds the one reference. -/
def start : World where
  opened := []
  begun := []
  counter := 0
  running := []
  handles := []
  taken := []
  started := []
  holds := true
  references := 1

/-! ## Bodies -/

/-- A body begins. -/
def beginBody (w : World) (r : Running) : World :=
  { w with begun := w.begun ++ [r.id], running := w.running ++ [r] }

/-- The body of a task ends, also by a panic. -/
def endBody (w : World) (k : TaskId) : World :=
  { w with running := w.running.filter (·.task != k) }

/-- Whether the body of a task has begun and not ended. -/
def isRunning (w : World) (k : TaskId) : Bool := w.running.any (·.task == k)

/-! ## Gates and the counter -/

/-- Opens a gate, which stays open. -/
def openGate (w : World) (name : String) : World :=
  { w with opened := name :: w.opened }

/-- Whether a gate is open. -/
def isOpen (w : World) (name : String) : Bool := w.opened.contains name

/-- Adds to the counter. -/
def add (w : World) (n : Int) : World := { w with counter := w.counter + n }

/-! ## Names -/

/-- Files a task under a name, in the place of an older one. -/
def file (table : List (String × TaskId)) (id : String) (k : TaskId) : List (String × TaskId) :=
  (id, k) :: table.filter (·.1 != id)

/-- Takes a name out of a table. -/
def unfile (table : List (String × TaskId)) (id : String) : List (String × TaskId) :=
  table.filter (·.1 != id)

/-- The task whose handle is kept under a name. -/
def handle? (w : World) (id : String) : Option TaskId := w.handles.lookup id

/-- Keeps a handle under a name. -/
def keepHandle (w : World) (id : String) (k : TaskId) : World :=
  { w with handles := file w.handles id k }

/-- Drops the handle kept under a name. -/
def dropHandle (w : World) (id : String) : World :=
  { w with handles := unfile w.handles id }

/-- The task taken out that is kept under a name. -/
def taken? (w : World) (id : String) : Option TaskId := w.taken.lookup id

/-- Keeps a task taken out under a name. -/
def keepTaken (w : World) (id : String) (k : TaskId) : World :=
  { w with taken := file w.taken id k }

/-- Forgets the task taken out under a name. -/
def dropTaken (w : World) (id : String) : World :=
  { w with taken := unfile w.taken id }

/-! ## References -/

/-- Borrows a reference, if the session holds one. -/
def borrow (w : World) : World × Bool :=
  if w.holds then ({ w with references := w.references + 1 }, true) else (w, false)

/-- Gives a reference back, and says whether it was the last one. -/
def giveBack (w : World) : World × Bool :=
  ({ w with references := w.references - 1 }, w.references == 1)

/-- The session lets go of its reference. -/
def letGo (w : World) : World := { w with holds := false }

end World

end WorkerPool.Session
