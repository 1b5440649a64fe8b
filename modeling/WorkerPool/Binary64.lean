/-
  Quantities in binary64.

  Counts are integers below `2 ^ 64`.  A count becomes a float by rounding
  to nearest, ties to even, and only then takes part in a division; a time
  in nanoseconds is its whole seconds plus the rest over `10 ^ 9`.  A float
  is shown by the sixteen hexadecimal digits of its bits.
-/
namespace WorkerPool.Binary64

/-- A count below `2 ^ 64`, rounded to nearest, ties to even. -/
def ofNat (n : Nat) : Float :=
  n.toUInt64.toFloat

/-- The quotient of two counts. -/
def quotient (a b : Nat) : Float :=
  ofNat a / ofNat b

/-- A time of `ns` nanoseconds in seconds. -/
def seconds (ns : Nat) : Float :=
  ofNat (ns / Nat.pow 10 9) + ofNat (ns % Nat.pow 10 9) / ofNat (Nat.pow 10 9)

/-- The sixteen hexadecimal digits of the bits. -/
def hex (x : Float) : String :=
  let digits := Nat.toDigits 16 x.toBits.toNat
  String.ofList (List.replicate (16 - digits.length) '0' ++ digits)

end WorkerPool.Binary64
