/-!
Sets of code points, given as ascending lists of closed ranges.
-/

namespace LineAudit.Text

/-- Closed ranges of code points, in ascending order and apart from one another. -/
abbrev Ranges := List (Nat × Nat)

/-- Whether a code point lies in one of the ranges. The search ends at the first range above it. -/
def Ranges.has : Ranges → Nat → Bool
  | [], _ => false
  | (lo, hi) :: rest, n => if n < lo then false else if n ≤ hi then true else Ranges.has rest n

end LineAudit.Text
