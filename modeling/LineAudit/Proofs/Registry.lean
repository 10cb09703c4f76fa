import LineAudit.Proofs.Lists
import LineAudit.Proofs.Matcher.Usable
import LineAudit.Registry
import Mathlib.Data.List.Forall2
import Mathlib.Data.List.Nodup

/-!
When a registry is made, and of which rules.

Main result: a registry is made exactly when each entry makes a rule and no two of these rules have
one id.
-/

namespace LineAudit

lemma Matcher.complaints_foreign (v : Value) :
    (Matcher.foreign v).complaints = Matcher.complain (.notMatcher v.kindName) := by
  rw [complaints]

namespace Draft

/-- A draft in which nothing is wrong makes a rule with the parts of the draft. -/
structure Makes (d : Draft) (r : Rule Severity) : Prop where
  id : d.id = .str r.id
  notBlank : Text.isAllBlank r.id = false
  description : r.description = d.description
  severity : d.severity.read = .ok r.severity
  matcher : r.matcher = d.matcher
  noComplaints : r.matcher.complaints = []
  exclusions : d.exclusions = .list r.exclusions ∨ d.exclusions = .tuple r.exclusions
  noExclusionComplaints : ∀ x ∈ r.exclusions, x.complaints = []
  recommendation : r.recommendation = d.recommendation

variable {d : Draft}

lemma id?_eq_some_iff {id : String} :
    d.id? = some id ↔ d.id = .str id ∧ Text.isAllBlank id = false := by
  unfold id?
  split
  next s hs =>
    rw [hs, Value.str.injEq]
    constructor
    · intro h
      split at h
      next => simp at h
      next hb =>
        obtain rfl := Option.some.inj h
        exact ⟨rfl, by simpa using hb⟩
    · rintro ⟨rfl, hb⟩
      simp [hb]
  next hno => simpa using fun h => absurd h (hno id)

lemma idProblems_eq_nil_iff (seen : List String) :
    d.idProblems seen = [] ↔ ∃ id, d.id? = some id ∧ id ∉ seen := by
  unfold idProblems
  split
  next h => simp [h]
  next id h => simp [h]

lemma severityProblems_eq_nil_iff : d.severityProblems = [] ↔ ∃ s, d.severity.read = .ok s := by
  unfold severityProblems
  split
  next s h => simp [h]
  next e h => simp [h]

lemma matcherProblems_eq_nil_iff : d.matcherProblems = [] ↔ d.matcher.complaints = [] := by
  unfold matcherProblems
  split
  next h => simp [h, Matcher.complaints_foreign, Matcher.complain]
  next h => simp [h, Matcher.complaints_foreign, Matcher.complain]
  next => exact List.map_eq_nil_iff

lemma exclusionListProblems_eq_nil_iff (index : ℕ) (ms : List Matcher) :
    exclusionListProblems index ms = [] ↔ ∀ m ∈ ms, m.complaints = [] := by
  induction ms generalizing index with
  | nil => simp [exclusionListProblems]
  | cons m rest ih =>
    cases m <;> simp [exclusionListProblems, ih, Matcher.complaints_foreign, Matcher.complain]

lemma exclusionProblems_eq_nil_iff : d.exclusionProblems = [] ↔
    ∃ items, (d.exclusions = .list items ∨ d.exclusions = .tuple items) ∧
      ∀ m ∈ items, m.complaints = [] := by
  unfold exclusionProblems
  split
  next items h => simp [h, exclusionListProblems_eq_nil_iff]
  next items h => simp [h, exclusionListProblems_eq_nil_iff]
  next v h => simp [h]

lemma Makes.id?_eq {r : Rule Severity} (h : d.Makes r) : d.id? = some r.id :=
  id?_eq_some_iff.mpr ⟨h.id, h.notBlank⟩

lemma Makes.rule?_eq {r : Rule Severity} (h : d.Makes r) : d.rule? = some r := by
  unfold rule?
  rcases h.exclusions with he | he
  all_goals simp [h.id?_eq, h.severity, he, ← h.description, ← h.matcher, ← h.recommendation]

lemma Makes.exclusions_eq {r : Rule Severity} (h : d.Makes r) {ms : List Matcher}
    (hlist : d.exclusions = .list ms) : r.exclusions = ms := by
  have he := h.exclusions
  rw [hlist] at he
  simpa [eq_comm] using he

/-- A draft has no problem, its id among them, when it makes a rule with a new id. -/
lemma problems_eq_nil_iff (seen : List String) :
    d.idProblems seen ++ d.ownProblems = [] ↔ ∃ r, d.Makes r ∧ r.id ∉ seen := by
  rw [ownProblems]
  simp only [List.append_eq_nil_iff, idProblems_eq_nil_iff, severityProblems_eq_nil_iff,
    matcherProblems_eq_nil_iff, exclusionProblems_eq_nil_iff]
  constructor
  · rintro ⟨⟨id, hid, hseen⟩, ⟨⟨severity, hs⟩, hm⟩, items, he, hx⟩
    obtain ⟨hid, hb⟩ := id?_eq_some_iff.mp hid
    exact ⟨⟨id, d.description, severity, d.matcher, items, d.recommendation⟩,
      ⟨hid, hb, rfl, hs, rfl, hm, he, hx, rfl⟩, hseen⟩
  · rintro ⟨r, h, hseen⟩
    exact ⟨⟨r.id, h.id?_eq, hseen⟩, ⟨⟨r.severity, h.severity⟩, h.matcher ▸ h.noComplaints⟩,
      r.exclusions, h.exclusions, h.noExclusionComplaints⟩

end Draft

/-- An entry that is a draft in which nothing is wrong makes a rule. -/
def Entry.Makes : Entry → Rule Severity → Prop
  | .draft d, r => d.Makes r
  | .foreign _, _ => False

/-- The walk over the entries after some ids have been seen. -/
lemma entryProblems_eq_nil_iff (index : ℕ) (seen : List String) (entries : List Entry)
    (rules : List (Rule Severity)) :
    entryProblems index seen entries = [] ∧ entries.filterMap Entry.rule? = rules ↔
      List.Forall₂ Entry.Makes entries rules ∧ (rules.map Rule.id).Nodup ∧
        ∀ r ∈ rules, r.id ∉ seen := by
  induction entries generalizing index seen rules with
  | nil =>
    rw [entryProblems, List.filterMap_nil, List.forall₂_nil_left_iff]
    constructor
    · rintro ⟨-, rfl⟩
      simp
    · rintro ⟨rfl, -⟩
      simp
  | cons e rest ih =>
    cases e with
    | foreign v =>
      simp only [entryProblems, List.forall₂_cons_left_iff, Entry.Makes]
      simp
    | draft d =>
      rw [entryProblems, List.append_eq_nil_iff, List.map_eq_nil_iff, Draft.problems_eq_nil_iff]
      constructor
      · rintro ⟨⟨⟨r, hr, hseen⟩, hrest⟩, rfl⟩
        have hrule : (Entry.draft d).rule? = some r := hr.rule?_eq
        rw [hr.id?_eq] at hrest
        obtain ⟨hmakes, hnd, hnew⟩ := (ih _ _ _).mp ⟨hrest, rfl⟩
        simp only [Option.toList_some, List.mem_append, List.mem_singleton, not_or] at hnew
        rw [List.filterMap_cons_some hrule, List.map_cons, List.nodup_cons, List.forall_mem_cons]
        refine ⟨.cons hr hmakes, ⟨fun hmem => ?_, hnd⟩, hseen, fun x hx => (hnew x hx).1⟩
        obtain ⟨x, hx, hid⟩ := List.mem_map.mp hmem
        exact (hnew x hx).2 hid
      · rintro ⟨hmakes, hnd, hnew⟩
        obtain ⟨r, rules, hr, hrest, rfl⟩ := List.forall₂_cons_left_iff.mp hmakes
        have hrule : (Entry.draft d).rule? = some r := hr.rule?_eq
        rw [List.map_cons, List.nodup_cons] at hnd
        rw [List.forall_mem_cons] at hnew
        have hlater : ∀ x ∈ rules, x.id ∉ seen ++ (some r.id).toList := by
          intro x hx hmem
          rcases List.mem_append.mp hmem with h | h
          · exact hnew.2 x hx h
          · rw [Option.toList_some, List.mem_singleton] at h
            exact hnd.1 (List.mem_map.mpr ⟨x, hx, h⟩)
        obtain ⟨hnil, hrules⟩ := (ih (index + 1) _ rules).mpr ⟨hrest, hnd.2, hlater⟩
        rw [Draft.Makes.id?_eq hr, List.filterMap_cons_some hrule, hrules]
        exact ⟨⟨⟨r, hr, hnew.1⟩, hnil⟩, rfl⟩

lemma Entry.Makes.hasWritableId {e : Entry} {r : Rule Severity} (h : e.Makes r) :
    e.hasWritableId = true := by
  cases e with
  | foreign v => rfl
  | draft d =>
    have hid : d.id = .str r.id := Draft.Makes.id h
    simp [Entry.hasWritableId, hid, Value.isWritable]

/-- **A registry is made of sound entries with distinct ids, and of nothing else.** -/
theorem Registry.load_eq_ok_iff {entries : List Entry} {registry : Registry Severity} :
    load entries = .ok registry ↔
      List.Forall₂ Entry.Makes entries registry.rules ∧ registry.ids.Nodup := by
  have hwalk := entryProblems_eq_nil_iff 0 [] entries registry.rules
  simp only [List.not_mem_nil, not_false_eq_true, implies_true, and_true] at hwalk
  unfold load
  split
  next =>
    rw [ids, ← hwalk]
    split
    next h =>
      cases registry
      simp [h]
    next h => simpa using fun hnil => absurd hnil h
  next hlong =>
    -- an entry that makes a rule has a text for an id
    refine ⟨nofun, fun h => absurd (List.all_eq_true.mpr ?_) hlong⟩
    exact forall_left_of_forall₂ h.1 fun _ _ her => her.hasWritableId

end LineAudit
