/-
  Dumps: the one-line texts that show the fields of a value.

  A record is its name with the fields in braces, a variant its name with
  its payload in brackets, an absent value `None`.
-/
import WorkerPool.Text.Quoted
import WorkerPool.Text.Duration

namespace WorkerPool.Text

/-- `Name { field: value, … }` -/
def record (name : String) (fields : List (String × String)) : String :=
  name ++ " \x7b " ++ ", ".intercalate (fields.map fun (f, v) => f ++ ": " ++ v) ++ " \x7d"

/-- `Name(payload)` -/
def variant (name payload : String) : String :=
  name ++ "(" ++ payload ++ ")"

/-- `Some(payload)` or `None` -/
def optional : Option String → String
  | some payload => variant "Some" payload
  | none => "None"

/-- The bytes of a text in UTF-8. -/
def bytes (s : String) : List Nat :=
  (s.toList.flatMap String.utf8EncodeChar).map UInt8.toNat

/-- `[a, b, …]` -/
def sequence (items : List String) : String :=
  "[" ++ ", ".intercalate items ++ "]"

/-- `true` or `false` -/
def truth (b : Bool) : String :=
  if b then "true" else "false"

end WorkerPool.Text
