import LineAudit.Proofs.Matcher.Decision
import Mathlib.Tactic.Common

/-!
Usable matchers: those with nothing to complain about and nothing that fails on purpose.

Main result: a usable matcher answers yes or no on every line.
-/

namespace LineAudit

lemma readRegex_eq_program_iff {pattern : Value} {ignoreCase : Bool} {program : Pattern.Compiled} :
    readRegex pattern ignoreCase = .ok (.ok program) ↔
      ∃ s, pattern = .str s ∧ s ≠ "" ∧ Pattern.compile s ignoreCase = .ok program := by
  unfold readRegex
  split
  next s =>
    by_cases hs : s = ""
    · simp [hs]
    · cases h : Pattern.compile s ignoreCase with
      | ok p => simp [hs, h]
      | error refusal => cases refusal <;> simp [hs, h]
  next hno => simpa using fun s hs => absurd hs (hno s)

lemma readRegex_eq_problem_iff {pattern : Value} {ignoreCase : Bool} {problem : RegexProblem} :
    readRegex pattern ignoreCase = .ok (.error problem) ↔
      (problem = .notText ∧ ∀ s, pattern = .str s → s = "") ∨
        ∃ s fault position?, problem = .malformed s fault position? ∧ pattern = .str s ∧ s ≠ "" ∧
          Pattern.compile s ignoreCase = .error (.malformed fault position?) := by
  unfold readRegex
  split
  next s =>
    by_cases hs : s = ""
    · simp [hs, @eq_comm _ problem]
    · cases h : Pattern.compile s ignoreCase with
      | ok program => simp [hs, h]
      | error refusal => cases refusal <;> simp [hs, h, @eq_comm _ problem]
  next hno =>
    have hnone (s : String) : ¬ pattern = .str s := hno s
    simp [hnone, @eq_comm _ problem]

namespace Regex

lemma make_eq_ok_iff {pattern : Value} {ignoreCase : Bool} {r : Regex} :
    make pattern ignoreCase = .ok r ↔ r.pattern = pattern ∧ r.ignoreCase = ignoreCase := by
  constructor
  · intro h
    unfold make at h
    split at h
    · obtain rfl := Except.ok.inj h
      exact ⟨rfl, rfl⟩
    · simp at h
  · rintro ⟨rfl, rfl⟩
    unfold make
    split
    next program h =>
      obtain rfl := Except.ok.inj (h.symm.trans r.read_eq)
      rfl
    next refusal h => simp [r.read_eq] at h

lemma problem?_eq_none_iff {r : Regex} :
    r.problem? = none ↔ ∃ program, r.program = .ok program := by
  unfold problem?
  cases r.program with
  | ok program => simp
  | error problem => simp

/-- A regular expression without a problem answers on every line. -/
lemma exists_answer {r : Regex} (h : r.problem? = none) (line : String) :
    ∃ b, r.search line = .ok b ∧ r.test line = .ok b := by
  -- a pattern without a problem has been compiled, and searching for it always ends
  obtain ⟨program, hp⟩ := problem?_eq_none_iff.mp h
  have hsearch : r.search line = .ok (program.search line) := by rw [search, hp]
  exact ⟨_, hsearch, by rw [test, hsearch]⟩

/-- A regular expression has no problem when it is a text that is a well-formed pattern. -/
lemma problem?_eq_none_iff_compiles {r : Regex} :
    r.problem? = none ↔ ∃ s, r.pattern = .str s ∧ s ≠ "" ∧
      ∃ program, Pattern.compile s r.ignoreCase = .ok program := by
  rw [problem?_eq_none_iff]
  constructor
  · rintro ⟨program, h⟩
    obtain ⟨s, hs, hne, hc⟩ := readRegex_eq_program_iff.mp (h ▸ r.read_eq)
    exact ⟨s, hs, hne, program, hc⟩
  · rintro ⟨s, hs, hne, program, hc⟩
    have hread := readRegex_eq_program_iff.mpr ⟨s, hs, hne, hc⟩
    exact ⟨program, Except.ok.inj (r.read_eq.symm.trans hread)⟩

lemma make_of_compiles {s : String} {ignoreCase : Bool} {program : Pattern.Compiled} (hne : s ≠ "")
    (hc : Pattern.compile s ignoreCase = .ok program) :
    ∃ r, make (.str s) ignoreCase = .ok r ∧ r.problem? = none := by
  have hread := readRegex_eq_program_iff.mpr ⟨s, rfl, hne, hc⟩
  exact ⟨⟨.str s, ignoreCase, .ok program, hread⟩, make_eq_ok_iff.mpr ⟨rfl, rfl⟩, rfl⟩

end Regex

namespace Matcher

/-- Matchers that can test every line. -/
inductive Usable : Matcher → Prop
  | literal (mark : ℕ) {s : String} (h : s ≠ "") : Usable (.literal mark (.str s))
  | regex (mark : ℕ) {r : Regex} (h : r.problem? = none) : Usable (.regex mark r)
  | any (mark : ℕ) {children : List Matcher} (hne : children ≠ [])
      (h : ∀ m ∈ children, Usable m) : Usable (.any mark children)
  | all (mark : ℕ) {children : List Matcher} (hne : children ≠ [])
      (h : ∀ m ∈ children, Usable m) : Usable (.all mark children)

lemma regexComplaints_eq_nil_iff {r : Regex} : regexComplaints r = [] ↔ r.problem? = none := by
  unfold regexComplaints
  split
  next h => simp [complain, h]
  next h => simp [h]

lemma childComplaints_eq_nil_iff (joint : Joint) (index : ℕ) (ms : List Matcher) :
    childComplaints joint index ms = [] ↔ ∀ m ∈ ms, m.complaints = [] := by
  induction ms generalizing index with
  | nil => simp [childComplaints]
  | cons m rest ih => simp [childComplaints, ih]

lemma complaints_node {children : List Matcher} (joint : Joint) (mark : ℕ) (hne : children ≠ []) :
    (joint.node mark children).complaints = childComplaints joint 0 children := by
  cases children with
  | nil => exact absurd rfl hne
  | cons m rest => cases joint <;> simp [Joint.node, complaints]

lemma complaints_node_eq_nil_iff (joint : Joint) (mark : ℕ) (children : List Matcher) :
    (joint.node mark children).complaints = [] ↔
      children ≠ [] ∧ ∀ m ∈ children, m.complaints = [] := by
  by_cases hne : children = []
  · subst hne
    cases joint <;> simp [Joint.node, complaints, complain]
  · rw [complaints_node joint mark hne, childComplaints_eq_nil_iff]
    simp [hne]

lemma Usable.complaints_eq {m : Matcher} (h : m.Usable) : m.complaints = [] := by
  induction h with
  | literal mark h => simp [complaints, literalComplaints, h]
  | regex mark h => rwa [complaints, regexComplaints_eq_nil_iff]
  | any mark hne _ ih => exact (complaints_node_eq_nil_iff .any mark _).mpr ⟨hne, ih⟩
  | all mark hne _ ih => exact (complaints_node_eq_nil_iff .all mark _).mpr ⟨hne, ih⟩

/-- A joint answers when all its children do. -/
lemma node_answers {children : List Matcher} {line : String} (joint : Joint) (mark : ℕ)
    (h : ∀ m ∈ children, ∃ b, m.test line = .ok b) :
    ∃ b, (joint.node mark children).test line = .ok b := by
  by_cases hpass : (joint.node mark children).test line = .ok joint.passes
  · exact ⟨_, hpass⟩
  · obtain ⟨before, x, after, he, -, hx⟩ := (test_node_eq_iff hpass mark children line).mp rfl
    rw [← hx]
    exact h x (by simp [he])

/-- **A usable matcher never fails.** -/
theorem Usable.answers {m : Matcher} (h : m.Usable) (line : String) :
    ∃ b, m.test line = .ok b := by
  induction h with
  | literal mark h => exact ⟨_, by rw [test]⟩
  | @regex mark r h =>
    obtain ⟨b, -, htest⟩ := r.exists_answer h line
    exact ⟨b, by rw [test, htest]⟩
  | any mark _ _ ih => exact node_answers .any mark ih
  | all mark _ _ ih => exact node_answers .all mark ih

end Matcher

end LineAudit
