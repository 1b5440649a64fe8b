/-
  Promises: a result that is sent at most once and delivered at most once.

  The sending end is open, has sent, or was closed unsent.  The receiving
  end can be asked in two ways: `tryTake` never fails and says "nothing
  further" for ever after it has answered, while `poll` on an end that has
  answered already is a misuse.
-/
namespace WorkerPool

/-- The sending end. -/
inductive Sender (α : Type) where
  | unsent
  | sent (a : α)
  | closed
  deriving DecidableEq, Repr

/-- Both ends of a promise. -/
structure Promise (α : Type) where
  sender : Sender α
  /-- whether the receiving end has answered -/
  spent : Bool
  deriving DecidableEq, Repr

/-- The answer to a question that may come too early or too late. -/
inductive Poll (α : Type) where
  | pending
  | ready (a : α)
  | misuse
  deriving DecidableEq, Repr

namespace Promise

variable {α : Type}

/-- A promise on which nothing was sent or asked. -/
def fresh : Promise α := ⟨.unsent, false⟩

/-- Sends a result, unless the sending end is used up. -/
def send (p : Promise α) (a : α) : Promise α :=
  match p.sender with
  | .unsent => { p with sender := .sent a }
  | _ => p

/-- Drops the sending end. -/
def close (p : Promise α) : Promise α :=
  match p.sender with
  | .unsent => { p with sender := .closed }
  | _ => p

/-- Whether a result can still be sent. -/
def isOpen (p : Promise α) : Bool :=
  match p.sender with
  | .unsent => true
  | _ => false

/-- What the receiving end would say, `lost` standing for a dropped sender. -/
def answer? (lost : α) (p : Promise α) : Option α :=
  match p.sender with
  | .unsent => none
  | .sent a => some a
  | .closed => some lost

/-- Asks without waiting: the answer if there is one, `lost` ever after. -/
def tryTake (lost : α) (p : Promise α) : Promise α × Option α :=
  if p.spent then (p, some lost)
  else match p.answer? lost with
    | none => (p, none)
    | some a => ({ p with spent := true }, some a)

/-- Asks once for good. -/
def poll (lost : α) (p : Promise α) : Promise α × Poll α :=
  if p.spent then (p, .misuse)
  else match p.answer? lost with
    | none => (p, .pending)
    | some a => ({ p with spent := true }, .ready a)

end Promise

end WorkerPool
