/-
  The idle histogram: how long each number of idle workers held.

  There are 64 buckets; counts of 63 and more share the last one.  Every
  addition goes to one bucket and to the total.
-/
import WorkerPool.Text.Dump

namespace WorkerPool.Idle

/-- The number of buckets. -/
def bucketCount : Nat := 64

/-- The bucket of a number of idle workers. -/
def bucketOf (idle : Nat) : Fin bucketCount :=
  ⟨min idle (bucketCount - 1), by simp only [bucketCount]; omega⟩

/-- Times in nanoseconds, by bucket and in total. -/
structure Histogram where
  buckets : Vector Nat bucketCount
  total : Nat
  deriving DecidableEq, Repr

namespace Histogram

/-- Nothing is booked. -/
def empty : Histogram := ⟨Vector.replicate bucketCount 0, 0⟩

/-- Books a time at a number of idle workers. -/
def add (h : Histogram) (idle elapsed : Nat) : Histogram where
  buckets := h.buckets.set (bucketOf idle) (h.buckets[bucketOf idle] + elapsed)
  total := h.total + elapsed

/-- The time booked in the bucket of a number of idle workers. -/
def timeAt (h : Histogram) (idle : Nat) : Nat := h.buckets[bucketOf idle]

/-- The buckets that are not empty, with their numbers, in ascending order. -/
def rows (h : Histogram) : List (Nat × Nat) :=
  (h.buckets.toList.zipIdx.filter (·.1 != 0)).map fun (time, i) => (i, time)

/-- The dump: all buckets and the total, as durations. -/
def dump (h : Histogram) : String :=
  Text.record "IdleHistogram"
    [("buckets", Text.sequence (h.buckets.toList.map Text.duration)),
     ("total", Text.duration h.total)]

end Histogram

end WorkerPool.Idle
