/-
  Durations as text: the largest of the units s, ms, µs and ns that the
  duration fills, with the exact remainder as a fraction.

  The fraction has no trailing zeros, and without a fraction there is no
  point either: `10s`, `1.5ms`, `1.000000001s`, `0ns`.
-/
namespace WorkerPool.Text

/-- The digits of a remainder below `10 ^ places`, without trailing zeros. -/
def fraction (places rest : Nat) : List Char :=
  let digits := Nat.toDigits 10 rest
  let padded := List.replicate (places - digits.length) '0' ++ digits
  (padded.reverse.dropWhile (· == '0')).reverse

/-- `ns` in the unit of `10 ^ places` nanoseconds. -/
def inUnit (places : Nat) (unit : String) (ns : Nat) : String :=
  let whole := toString (ns / Nat.pow 10 places)
  match fraction places (ns % Nat.pow 10 places) with
  | [] => whole ++ unit
  | digits => whole ++ "." ++ String.ofList digits ++ unit

/-- A duration of `ns` nanoseconds. -/
def duration (ns : Nat) : String :=
  if Nat.pow 10 9 ≤ ns then inUnit 9 "s" ns
  else if Nat.pow 10 6 ≤ ns then inUnit 6 "ms" ns
  else if Nat.pow 10 3 ≤ ns then inUnit 3 "µs" ns
  else toString ns ++ "ns"

end WorkerPool.Text
