import Perimeter.Error

/-!
Rule priorities. The load balancer tries rules in ascending priority and wants each priority once,
so a listener owns one allocator, which issues 1, 2, 3, … up to a limit and then only fails.
-/

namespace Perimeter

/-- The priority of a rule; a lower one is tried first. -/
structure Priority where
  value : UInt32
deriving DecidableEq, Repr

namespace Priority

/-- The highest priority that a rule may have. -/
def maximum : UInt32 := 50000

/-- The failure to issue a priority after the last one. -/
def exhausted : Error :=
  .constraint ("listener rule priorities exhausted (maximum " ++ toString maximum ++ ")")

/-- The source of the priorities of one listener. -/
structure Allocator where
  upcoming : UInt32
deriving DecidableEq, Repr

namespace Allocator

def initial : Allocator := ⟨1⟩

/-- Issues the next priority. -/
def next (a : Allocator) : Except Error Priority × Allocator :=
  if maximum < a.upcoming then (.error exhausted, a)
  else (.ok ⟨a.upcoming⟩, ⟨a.upcoming + 1⟩)

/-- How many priorities have been issued. -/
def issued (a : Allocator) : UInt32 := a.upcoming - 1

/-- How many priorities are left. -/
def remaining (a : Allocator) : UInt32 := maximum + 1 - a.upcoming

/-- Calls for a number of priorities, up to the first failure: those issued, and the failure. -/
def issue : Nat → Allocator → (List Priority × Option Error) × Allocator
  | 0, a => (([], none), a)
  | n + 1, a =>
    match a.next with
    | (.error e, a) => (([], some e), a)
    | (.ok p, a) =>
      let ((ps, e), a) := issue n a
      ((p :: ps, e), a)

end Allocator

end Priority

end Perimeter
