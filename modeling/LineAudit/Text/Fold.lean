import LineAudit.Text.LetterCase

/-!
Comparing characters without regard to letter case.

Two characters are alike when their lower-case counterparts are the same or are two spellings of one
letter, such as the two small sigmas.
-/

namespace LineAudit.Text

/-- Lower-case characters that have one upper-case counterpart. -/
def spellingClasses : List (List Nat) := [
  [0x69, 0x131], [0x73, 0x17f], [0xb5, 0x3bc], [0x345, 0x3b9, 0x1fbe],
  [0x390, 0x1fd3], [0x3b0, 0x1fe3], [0x3b2, 0x3d0], [0x3b5, 0x3f5],
  [0x3b8, 0x3d1], [0x3ba, 0x3f0], [0x3c0, 0x3d6], [0x3c1, 0x3f1],
  [0x3c2, 0x3c3], [0x3c6, 0x3d5], [0x432, 0x1c80], [0x434, 0x1c81],
  [0x43e, 0x1c82], [0x441, 0x1c83], [0x442, 0x1c84, 0x1c85], [0x44a, 0x1c86],
  [0x463, 0x1c87], [0x1c88, 0xa64b], [0x1e61, 0x1e9b], [0xfb05, 0xfb06]]

/-- A lower-case character with the other spellings of it. -/
def spellings (n : Nat) : List Nat := (spellingClasses.find? (·.contains n)).getD [n]

/-- The code points that have a given lower-case counterpart. -/
def lowerSources (n : Nat) : List Nat :=
  let moved := lowerRuns.filterMap fun r =>
    let m := ((n : Int) - r.shift).toNat
    if moveBy [r] m = n ∧ m ≠ n then some m else none
  if lowerPoint n = n then n :: moved else moved

/-- A run has a member in a range. -/
def CaseRun.meets (lo hi : Nat) (r : CaseRun) : Bool :=
  let start :=
    if lo ≤ r.first then r.first else lo + (r.step - (lo - r.first) % r.step) % r.step
  start ≤ r.last && start ≤ hi

/-- A range holds a character that changes with letter case. -/
def hasCased (lo hi : Nat) : Bool := lowerRuns.any (·.meets lo hi) || upperRuns.any (·.meets lo hi)

end LineAudit.Text
