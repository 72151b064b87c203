import Underwriting.Duration

/-!
# Limits of the service

How long a program may take and how many programs are evaluated at once.
-/

namespace Underwriting

/-- The limits under which programs are evaluated. -/
structure Limits where
  budget : Duration
  maxConcurrency : Nat
deriving DecidableEq

namespace Limits

/-- The widest pool of evaluations there can be. -/
def maxPoolWidth : Nat := 2305843009213693951

/-- Two seconds a program, and eight programs at once. -/
def standard : Limits := ⟨.ofMilliseconds 2000, 8⟩

/-- The number of evaluations let in at once: at least one and at most the widest pool. -/
def poolWidth (limits : Limits) : Nat := max 1 (min limits.maxConcurrency maxPoolWidth)

/-- However the limits are set, somebody is let in. -/
theorem poolWidth_pos (limits : Limits) : 0 < limits.poolWidth :=
  Nat.lt_of_lt_of_le Nat.zero_lt_one (Nat.le_max_left ..)

end Limits

end Underwriting
