/-!
# Breakdowns

How a command ends that cannot be carried out. Most causes are errors, which are reported; but work
that cannot go on at all is abandoned where it stands, and then nothing else is tried.
-/

namespace Underwriting

/-- Why a command is not carried out: an error, or work that is abandoned. -/
inductive Breakdown (ε : Type)
  | reported (error : ε)
  | abandoned
deriving DecidableEq

namespace Breakdown

/-- The breakdown with its error in the terms of a larger part. -/
def map {ε δ : Type} (wrap : ε → δ) : Breakdown ε → Breakdown δ
  | .reported error => .reported (wrap error)
  | .abandoned => .abandoned

/-- The status with which the program ends. -/
def status {ε : Type} : Breakdown ε → UInt32
  | .reported _ => 1
  | .abandoned => 101

end Breakdown

end Underwriting
