/-!
# Categories of errors

Every error belongs to one part of the system, which tells whom it concerns.
-/

namespace Attestation

/-- The parts of the system to which errors belong. -/
inductive ErrorCategory where
  /-- The error may go away by itself. -/
  | transient
  /-- Something submitted does not hold. -/
  | verification
  /-- Statements contradict each other. -/
  | integrity
  /-- Someone did what they may not do. -/
  | authorization
  /-- The set-up is wrong. -/
  | configuration
deriving DecidableEq

end Attestation
