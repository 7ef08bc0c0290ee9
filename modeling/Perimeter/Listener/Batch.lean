import Perimeter.Error

/-!
Batches: a rule condition holds a bounded number of values, so a list of patterns is cut into
contiguous pieces of that size, the last of which may be shorter.
-/

namespace Perimeter.Batch

/-- The most values that one condition holds. -/
def maxValues : Nat := 5

/-- The pieces of a list, all of `size` elements but the last. -/
def chunks {α : Type} (size : Nat) (h : 0 < size) : List α → List (List α)
  | [] => []
  | x :: xs => (x :: xs).take size :: chunks size h ((x :: xs).drop size)
termination_by xs => xs.length
decreasing_by simp only [List.length_drop, List.length_cons]; omega

/-- The failure to cut into pieces of no element. -/
def sizeZero : Error := .validation "batch size must be at least 1" (some "max_size")

/-- The batches of a list. -/
def ofList {α : Type} (xs : List α) (size : Nat) : Except Error (List (List α)) :=
  if h : 0 < size then .ok (chunks size h xs) else .error sizeZero

/-- The number of batches of a list of the given length: the quotient, rounded up. A size of zero
counts as one. -/
def count (length size : Nat) : Nat :=
  let quotient := length / max size 1
  if length % max size 1 = 0 then quotient else quotient + 1

/-- The number of batches in 64-bit arithmetic. -/
def count64 (length size : UInt64) : UInt64 :=
  let size := max size 1
  let quotient := length / size
  if length % size = 0 then quotient else quotient + 1

end Perimeter.Batch
