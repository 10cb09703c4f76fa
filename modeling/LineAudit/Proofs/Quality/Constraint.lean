import LineAudit.Quality.Pragma
import Mathlib.Data.Prod.Lex
import Mathlib.Tactic.Common

/-!
What a pragma asks of the compiler.

A pragma is a row of constraints. Each of them names a release of the compiler and may have a
comparator in front, and the compiler must meet them all. Main statement: when no constraint names a
release below a given one, all releases below it are kept out exactly if some constraint is no upper
bound.
-/

namespace LineAudit.Pragma

/-- A release of the compiler. -/
structure Release where
  major : ℕ
  minor : ℕ
  patch : ℕ
  deriving DecidableEq, Repr

namespace Release

/-- The numbers of a release, of which the major one counts first. -/
def key (r : Release) : ℕ ×ₗ ℕ ×ₗ ℕ := toLex (r.major, toLex (r.minor, r.patch))

lemma key_injective : Function.Injective key := by
  rintro ⟨a, b, c⟩ ⟨a', b', c'⟩ h
  simpa [key] using h

/-- Releases come out in the order of their numbers. -/
instance : LinearOrder Release := LinearOrder.lift' key key_injective

lemma lt_iff {r s : Release} : r < s ↔ r.major < s.major ∨
    r.major = s.major ∧ (r.minor < s.minor ∨ r.minor = s.minor ∧ r.patch < s.patch) := by
  change r.key < s.key ↔ _
  simp [key, Prod.Lex.toLex_lt_toLex]

/-- The first release that may break what a release has: its first number that is not zero goes up.
-/
def nextBreaking (r : Release) : Release :=
  if 0 < r.major then ⟨r.major + 1, 0, 0⟩
  else if 0 < r.minor then ⟨0, r.minor + 1, 0⟩
  else ⟨0, 0, r.patch + 1⟩

/-- The first release with the next minor number. -/
def nextMinor (r : Release) : Release := ⟨r.major, r.minor + 1, 0⟩

/-- A release as it is written. -/
def chars (r : Release) : List Char :=
  Nat.toDigits 10 r.major ++ '.' :: (Nat.toDigits 10 r.minor ++ '.' :: Nat.toDigits 10 r.patch)

end Release

/-- What stands in front of a release. -/
inductive Comparator
  | caret
  | tilde
  | equal
  | above
  | atLeast
  | below
  | atMost
  deriving DecidableEq, Repr

namespace Comparator

/-- A comparator holds between the release that it stands in front of and another one. -/
def Holds : Comparator → Release → Release → Prop
  | caret, named, r => named ≤ r ∧ r < named.nextBreaking
  | tilde, named, r => named ≤ r ∧ r < named.nextMinor
  | equal, named, r => r = named
  | above, named, r => named < r
  | atLeast, named, r => named ≤ r
  | below, named, r => r < named
  | atMost, named, r => r ≤ named

instance : (comparator : Comparator) → (named r : Release) → Decidable (comparator.Holds named r)
  | caret, named, r => inferInstanceAs (Decidable (named ≤ r ∧ r < named.nextBreaking))
  | tilde, named, r => inferInstanceAs (Decidable (named ≤ r ∧ r < named.nextMinor))
  | equal, named, r => inferInstanceAs (Decidable (r = named))
  | above, named, r => inferInstanceAs (Decidable (named < r))
  | atLeast, named, r => inferInstanceAs (Decidable (named ≤ r))
  | below, named, r => inferInstanceAs (Decidable (r < named))
  | atMost, named, r => inferInstanceAs (Decidable (r ≤ named))

/-- A comparator as it is written. -/
def chars : Comparator → List Char
  | caret => ['^']
  | tilde => ['~']
  | equal => ['=']
  | above => ['>']
  | atLeast => ['>', '=']
  | below => ['<']
  | atMost => ['<', '=']

end Comparator

/-- A release with or without a comparator. -/
structure Constraint where
  comparator? : Option Comparator
  release : Release
  deriving DecidableEq, Repr

namespace Constraint

/-- A release meets a constraint; without a comparator it must be the one that is named. -/
def Admits (c : Constraint) (r : Release) : Prop :=
  match c.comparator? with
  | none => r = c.release
  | some comparator => comparator.Holds c.release r

instance : (c : Constraint) → (r : Release) → Decidable (c.Admits r)
  | ⟨none, named⟩, r => inferInstanceAs (Decidable (r = named))
  | ⟨some comparator, named⟩, r => inferInstanceAs (Decidable (comparator.Holds named r))

/-- A constraint that sets a limit at the upper end alone. -/
def IsUpperBound (c : Constraint) : Prop :=
  c.comparator? = some .below ∨ c.comparator? = some .atMost

/-- A constraint as it is written. -/
def chars (c : Constraint) : List Char :=
  (c.comparator?.map Comparator.chars).getD [] ++ c.release.chars

lemma release_le_of_admits {c : Constraint} {r : Release} (h : c.Admits r)
    (hlower : ¬ c.IsUpperBound) : c.release ≤ r := by
  obtain ⟨comparator?, named⟩ := c
  cases comparator? with
  | none => exact le_of_eq (Eq.symm h)
  | some comparator =>
    cases comparator with
    | caret => exact h.1
    | tilde => exact h.1
    | equal => exact le_of_eq (Eq.symm h)
    | above => exact le_of_lt h
    | atLeast => exact h
    | below => exact absurd (.inl rfl) hlower
    | atMost => exact absurd (.inr rfl) hlower

lemma admits_of_lt {c : Constraint} {r : Release} (hupper : c.IsUpperBound)
    (h : r < c.release) : c.Admits r := by
  obtain ⟨comparator?, named⟩ := c
  rcases hupper with rfl | rfl
  · exact h
  · exact le_of_lt h

end Constraint

/-- A release meets all constraints of a row. -/
def Satisfies (r : Release) (row : List Constraint) : Prop := ∀ c ∈ row, c.Admits r

instance (r : Release) (row : List Constraint) : Decidable (Satisfies r row) :=
  inferInstanceAs (Decidable (∀ c ∈ row, c.Admits r))

/-- A caret admits what is compatible, a tilde the same minor number. -/
example : Satisfies ⟨0, 8, 20⟩ [⟨some .caret, ⟨0, 8, 4⟩⟩, ⟨some .below, ⟨0, 9, 0⟩⟩] ∧
    ¬ Satisfies ⟨0, 9, 0⟩ [⟨some .caret, ⟨0, 8, 4⟩⟩] ∧
    ¬ Satisfies ⟨1, 3, 0⟩ [⟨some .tilde, ⟨1, 2, 9⟩⟩] := by
  decide

/-- A row of constraints that names no release below a given one keeps out those below it exactly if
it is not made of upper bounds alone. -/
lemma forall_satisfies_iff {row : List Constraint} {first : Release} (hfirst : ⟨0, 0, 0⟩ < first)
    (hnamed : ∀ c ∈ row, first ≤ c.release) :
    (∀ r, Satisfies r row → ¬ r < first) ↔ ∃ c ∈ row, ¬ c.IsUpperBound := by
  constructor
  · intro hall
    by_contra hupper
    push Not at hupper
    refine hall ⟨0, 0, 0⟩ (fun c hc => ?_) hfirst
    exact Constraint.admits_of_lt (hupper c hc) (lt_of_lt_of_le hfirst (hnamed c hc))
  · rintro ⟨c, hc, hlower⟩ r hr hlt
    have hle := (hnamed c hc).trans (Constraint.release_le_of_admits (hr c hc) hlower)
    exact absurd hlt (not_lt_of_ge hle)

/-- A pragma with a row of constraints, as it is written. -/
def written (row : List Constraint) : List Char :=
  "pragma solidity".toList ++ (row.flatMap (fun c => ' ' :: c.chars) ++ [';'])

end LineAudit.Pragma
