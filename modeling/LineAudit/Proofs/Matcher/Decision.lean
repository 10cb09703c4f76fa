import LineAudit.Rule
import Mathlib.Data.Nat.Notation
import Mathlib.Logic.Basic
import Mathlib.Tactic.Lemma

/-!
Which matcher decides a test of several ones, and what decides whether a rule fires.

Of several matchers the first one that does not say no decides, by matching or by failing. A rule
fails on a line when its matcher fails, or when the matcher matches and the first exclusion that
does not say no fails.
-/

namespace LineAudit

namespace Joint

/-- The answer of a child that leaves the decision to those after it. -/
def passes : Joint → Bool
  | any => false
  | all => true

/-- An answer after which no other child is asked. -/
def settles (joint : Joint) : Except Failure Bool → Bool
  | .ok answer => answer != joint.passes
  | .error _ => true

/-- What is made of the answers of children: the first one that settles it. -/
def verdict (joint : Joint) (answers : List (Except Failure Bool)) : Except Failure Bool :=
  (answers.find? joint.settles).getD (.ok joint.passes)

/-- The matcher that joins some children. -/
def node (joint : Joint) (mark : ℕ) (children : List Matcher) : Matcher :=
  match joint with
  | any => .any mark children
  | all => .all mark children

variable {joint : Joint} {answers : List (Except Failure Bool)}

lemma settles_iff {d : Except Failure Bool} :
    joint.settles d = true ↔ d ≠ .ok joint.passes := by
  cases d <;> simp [settles]

lemma verdict_eq_iff {d : Except Failure Bool} (hd : d ≠ .ok joint.passes) :
    joint.verdict answers = d ↔ ∃ before after, answers = before ++ d :: after ∧
      ∀ a ∈ before, a = .ok joint.passes := by
  have hfirst : joint.verdict answers = d ↔ answers.find? joint.settles = some d := by
    unfold verdict
    cases answers.find? joint.settles with
    | none => simp [hd.symm]
    | some a => simp
  have hpasses (a : Except Failure Bool) : joint.settles a = false ↔ a = .ok joint.passes := by
    rw [← Bool.not_eq_true, settles_iff, not_not]
  simp [hfirst, List.find?_eq_some_iff_append, settles_iff, hd, hpasses]

lemma verdict_eq_passes_iff :
    joint.verdict answers = .ok joint.passes ↔ ∀ a ∈ answers, a = .ok joint.passes := by
  unfold verdict
  cases hfind : answers.find? joint.settles with
  | none => simpa [settles_iff] using hfind
  | some a =>
    have ha := settles_iff.mp (List.find?_some hfind)
    exact ⟨fun h => absurd h ha, fun h => absurd (h a (List.mem_of_find?_eq_some hfind)) ha⟩

/-- Answers that come later play no part once the verdict is settled. -/
lemma verdict_append_of_ne (h : joint.verdict answers ≠ .ok joint.passes)
    (later : List (Except Failure Bool)) :
    joint.verdict (answers ++ later) = joint.verdict answers := by
  obtain ⟨before, after, he, hb⟩ := (verdict_eq_iff h).mp rfl
  have hlater : answers ++ later = before ++ joint.verdict answers :: (after ++ later) :=
    (congrArg (· ++ later) he).trans (List.append_assoc ..)
  exact (verdict_eq_iff h).mpr ⟨before, after ++ later, hlater, hb⟩

lemma verdict_append_of_eq (h : joint.verdict answers = .ok joint.passes)
    (later : List (Except Failure Bool)) :
    joint.verdict (answers ++ later) = joint.verdict later := by
  have hnone : answers.find? joint.settles = none := by
    refine List.find?_eq_none.mpr fun a ha => ?_
    rw [settles_iff, not_not]
    exact verdict_eq_passes_iff.mp h a ha
  rw [verdict, List.find?_append, hnone, Option.none_or, verdict]

end Joint

namespace Matcher

@[elab_as_elim]
lemma inductionOn {P : Matcher → Prop} (m : Matcher)
    (literal : ∀ mark v, P (.literal mark v)) (regex : ∀ mark r, P (.regex mark r))
    (alarmed : ∀ mark trigger failure r, P (.alarmed mark trigger failure r))
    (foreign : ∀ v, P (.foreign v))
    (node : ∀ (joint : Joint) mark children, (∀ m ∈ children, P m) → P (joint.node mark children)) :
    P m :=
  match m with
  | .literal mark v => literal mark v
  | .regex mark r => regex mark r
  | .alarmed mark trigger failure r => alarmed mark trigger failure r
  | .foreign v => foreign v
  | .any mark children =>
    node .any mark children fun child _ => inductionOn child literal regex alarmed foreign node
  | .all mark children =>
    node .all mark children fun child _ => inductionOn child literal regex alarmed foreign node

lemma testAny_eq_verdict (ms : List Matcher) (line : String) :
    testAny ms line = Joint.any.verdict (ms.map fun m => m.test line) := by
  induction ms with
  | nil =>
    rw [testAny]
    rfl
  | cons m rest ih =>
    rw [testAny, List.map_cons, ih]
    rcases m.test line with c | _ | _ <;> rfl

lemma testAll_eq_verdict (ms : List Matcher) (line : String) :
    testAll ms line = Joint.all.verdict (ms.map fun m => m.test line) := by
  induction ms with
  | nil =>
    rw [testAll]
    rfl
  | cons m rest ih =>
    rw [testAll, List.map_cons, ih]
    rcases m.test line with c | _ | _ <;> rfl

/-- A joint gives the verdict on the answers of its children. -/
lemma test_node (joint : Joint) (mark : ℕ) (children : List Matcher) (line : String) :
    (joint.node mark children).test line =
      joint.verdict (children.map fun m => m.test line) := by
  cases joint with
  | any => rw [Joint.node, test, testAny_eq_verdict]
  | all => rw [Joint.node, test, testAll_eq_verdict]

/-- A decision other than to pass comes from a child before which all others pass. -/
lemma test_node_eq_iff {joint : Joint} {d : Except Failure Bool} (hd : d ≠ .ok joint.passes)
    (mark : ℕ) (children : List Matcher) (line : String) :
    (joint.node mark children).test line = d ↔ ∃ before x after, children = before ++ x :: after ∧
      (∀ y ∈ before, y.test line = .ok joint.passes) ∧ x.test line = d := by
  rw [test_node, Joint.verdict_eq_iff hd]
  constructor
  · rintro ⟨answers, later, h, hb⟩
    obtain ⟨before, rest, rfl, rfl, hrest⟩ := List.map_eq_append_iff.mp h
    obtain ⟨x, after, rfl, hx, -⟩ := List.map_eq_cons_iff.mp hrest
    exact ⟨before, x, after, rfl, by simpa using hb, hx⟩
  · rintro ⟨before, x, after, rfl, hb, rfl⟩
    exact ⟨before.map fun m => m.test line, after.map fun m => m.test line, by simp,
      by simpa using hb⟩

lemma test_node_eq_passes_iff (joint : Joint) (mark : ℕ) (children : List Matcher)
    (line : String) :
    (joint.node mark children).test line = .ok joint.passes ↔
      ∀ m ∈ children, m.test line = .ok joint.passes := by
  simp [test_node, Joint.verdict_eq_passes_iff]

lemma testAny_eq_iff {d : Except Failure Bool} (hd : d ≠ .ok false) (ms : List Matcher)
    (line : String) :
    testAny ms line = d ↔ ∃ before x after, ms = before ++ x :: after ∧
      (∀ y ∈ before, y.test line = .ok false) ∧ x.test line = d := by
  rw [testAny_eq_verdict, ← test_node .any 0]
  exact test_node_eq_iff hd 0 ms line

lemma testAny_eq_false_iff (ms : List Matcher) (line : String) :
    testAny ms line = .ok false ↔ ∀ m ∈ ms, m.test line = .ok false := by
  rw [testAny_eq_verdict, ← test_node .any 0]
  exact test_node_eq_passes_iff .any 0 ms line

end Matcher

namespace Rule

variable {σ : Type}

/-- Testing a rule on a line fails, with the exclusions before a failing one saying no. -/
inductive FailsOn (r : Rule σ) (line : String) (c : Failure) : Prop
  | matcher (h : r.matcher.test line = .error c)
  | exclusion (before after : List Matcher) (x : Matcher)
      (hm : r.matcher.test line = .ok true) (he : r.exclusions = before ++ x :: after)
      (hb : ∀ y ∈ before, y.test line = .ok false) (hx : x.test line = .error c)

/-- The matcher of a rule matches a line and no exclusion does. -/
def Matches (r : Rule σ) (line : String) : Prop :=
  r.matcher.test line = .ok true ∧ ∀ x ∈ r.exclusions, x.test line ≠ .ok true

lemma fires_eq_error_iff (r : Rule σ) (line : String) (c : Failure) :
    r.fires line = .error c ↔ r.FailsOn line c := by
  have hany := Matcher.testAny_eq_iff (d := .error c) (by simp) r.exclusions line
  unfold fires
  constructor
  · intro h
    split at h
    next hm =>
      cases ht : Matcher.testAny r.exclusions line with
      | ok excluded => simp [ht] at h
      | error failure =>
        have hf : failure = c := by simpa [ht] using h
        rw [ht, hf] at hany
        obtain ⟨before, x, after, he, hb, hx⟩ := hany.mp rfl
        exact .exclusion before after x hm he hb hx
    next => exact .matcher h
  · rintro (h | ⟨before, after, x, hm, he, hb, hx⟩)
    · simp [h]
    · rw [hm]
      simp [hany.mpr ⟨before, x, after, he, hb, hx⟩]

lemma fires_eq_true_iff (r : Rule σ) (line : String) :
    r.fires line = .ok true ↔
      r.matcher.test line = .ok true ∧ ∀ x ∈ r.exclusions, x.test line = .ok false := by
  rw [← Matcher.testAny_eq_false_iff]
  unfold fires
  split
  next hm =>
    cases Matcher.testAny r.exclusions line with
    | ok excluded => simp [hm]
    | error failure => simp [hm]
  next hm =>
    exact ⟨fun h => absurd h hm, fun h => absurd h.1 hm⟩

/-- On a line on which it does not fail, a rule fires when it matches. -/
lemma fires_iff_matches {r : Rule σ} {line : String} (h : ∀ c, ¬ r.FailsOn line c) :
    r.fires line = .ok true ↔ r.Matches line := by
  rw [fires_eq_true_iff]
  constructor
  · rintro ⟨hm, hx⟩
    exact ⟨hm, fun x hmem => by rw [hx x hmem]; simp⟩
  · rintro ⟨hm, hx⟩
    refine ⟨hm, (Matcher.testAny_eq_false_iff _ _).mp ?_⟩
    rcases ht : Matcher.testAny r.exclusions line with c | _ | _
    · have hf : r.fires line = .error c := by simp [fires, hm, ht]
      exact absurd ((fires_eq_error_iff r line c).mp hf) (h c)
    · rfl
    · obtain ⟨before, x, after, he, -, hx'⟩ := (Matcher.testAny_eq_iff (by simp) _ _).mp ht
      exact absurd hx' (hx x (by simp [he]))

end Rule

end LineAudit
