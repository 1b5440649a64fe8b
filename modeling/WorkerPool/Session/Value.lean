/-
  Values: what tasks of a session return and what a session answers.

  A session passes values on and never computes with them, so a number is
  kept as it is written.  The fields of a record have no order that matters.
-/
namespace WorkerPool.Session

/-- A value that tasks return and answers are written as. -/
inductive Value where
  | null
  | bool (b : Bool)
  | number (written : String)
  | text (s : String)
  | list (vs : List Value)
  | record (fields : List (String × Value))
  deriving Repr, Inhabited

namespace Value

/-- An integer, written in decimal. -/
def ofInt (n : Int) : Value := number (toString n)

/-- A number, written in decimal. -/
def ofNat (n : Nat) : Value := number (toString n)

/-- A list of numbers. -/
def ofNats (ns : List Nat) : Value := list (ns.map ofNat)

/-- A list of texts. -/
def ofTexts (ss : List String) : Value := list (ss.map text)

/-- A value, or its absence. -/
def ofOption : Option Value → Value
  | some v => v
  | none => null

end Value

end WorkerPool.Session
