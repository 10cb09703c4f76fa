import LineAudit.Proofs.Matcher.Grammar
import LineAudit.Proofs.Value.Order

/-!
Specifications on which the check breaks off.

The check complains about what it finds wrong. It has no words for a mapping whose keys cannot be
listed, nor for a pattern that is refused outright, and breaks off there. Main result: it does so
exactly when one of these stands at or below a specification, wherever else something is wrong.
-/

namespace LineAudit

/-- A refusal that is not for a mistake in the pattern: a count is beyond all bounds, or there are
two alphabets. -/
def Pattern.Refusal.Outright : Refusal → Prop
  | .malformed _ _ => False
  | .longCount _ | .largeCount | .twoAlphabets => True

namespace Spec

/-- A pattern is a text that is refused outright. -/
def RefusedOutright (pattern : Value) (ignoreCase : Bool) : Prop :=
  ∃ s refusal, pattern = .str s ∧ s ≠ "" ∧
    Pattern.compile s ignoreCase = .error refusal ∧ refusal.Outright

/-- Keys can be put in order and written. -/
def Listable (keys : List Value) : Prop :=
  Value.Sortable keys ∧ ∀ key ∈ keys, key.isWritable

/-- Specifications that have something at or below them for which the check has no words. -/
inductive Breaks : Value → Prop
  | keys {entries : List (Value × Value)} (hkey : ∀ key ∈ specKeys, ¬ OnlyKey key entries)
      (h : ¬ Listable (entries.map Prod.fst)) : Breaks (.dict entries)
  | regex {entries : List (Value × Value)} {pattern : Value} (hkey : OnlyKey "regex" entries)
      (hp : Value.field? "regex" entries = some pattern)
      (h : RefusedOutright pattern (ignoresCase entries)) : Breaks (.dict entries)
  | joint (joint : Joint) {entries : List (Value × Value)} {items : List Value} {item : Value}
      (hkey : OnlyKey joint.key entries)
      (hitems : Value.field? joint.key entries = some (.list items)) (hmem : item ∈ items)
      (h : Breaks item) : Breaks (.dict entries)

/-! ### The check of a mapping -/

lemma sortedKeys_fails_iff (entries : List (Value × Value)) :
    (∃ failure, sortedKeys entries = .error failure) ↔ ¬ Listable (entries.map Prod.fst) := by
  unfold sortedKeys Listable
  rw [← Value.exists_sort?_iff]
  split
  next keys hsort =>
    have hwritable : Value.areWritable keys = true ↔
        ∀ key ∈ entries.map Prod.fst, key.isWritable := by
      simp only [Value.areWritable_iff, (Value.perm_of_sort? hsort).mem_iff]
    rw [← hwritable, hsort]
    split
    next h => simp [h]
    next h => simp [h]
  next hsort => simp [hsort]

lemma readRegex_fails_iff (pattern : Value) (ignoreCase : Bool) :
    (∃ refusal, readRegex pattern ignoreCase = .error refusal) ↔
      RefusedOutright pattern ignoreCase := by
  unfold readRegex RefusedOutright
  split
  next s =>
    by_cases hs : s = ""
    · simp [hs]
    · cases h : Pattern.compile s ignoreCase with
      | ok program => simp [hs, h]
      | error refusal => cases refusal <;> simp [hs, h, Pattern.Refusal.Outright]
  next hno => simpa using fun s hs => absurd hs (hno s)

lemma regexProblem_fails_iff (pattern : Value) (ignoreCase : Bool) :
    (∃ failure, regexProblem pattern ignoreCase = .error failure) ↔
      RefusedOutright pattern ignoreCase := by
  rw [← readRegex_fails_iff]
  unfold regexProblem
  split
  next r hr =>
    obtain ⟨rfl, rfl⟩ := Regex.make_eq_ok_iff.mp hr
    simp [r.read_eq]
  next refusal hr =>
    unfold Regex.make at hr
    split at hr
    next => cases hr
    next _ hread => simp [hread]

lemma itemComplaints_fails_iff (joint : Joint) (index : ℕ) (items : List Value) :
    (∃ failure, itemComplaints joint index items = .error failure) ↔
      ∃ item ∈ items, ∃ failure, complaints item = .error failure := by
  induction items generalizing index with
  | nil => simp [itemComplaints]
  | cons item rest ih =>
    rw [itemComplaints, exists_error_join_iff, ih (index + 1)]
    simp

lemma listComplaints_fails_iff (joint : Joint) (v : Value) :
    (∃ failure, listComplaints joint v = .error failure) ↔
      ∃ items, v = .list items ∧ ∃ item ∈ items, ∃ failure, complaints item = .error failure := by
  unfold listComplaints
  split
  next => simp
  next items hne => simp [itemComplaints_fails_iff]
  next v _ hlist => simpa using fun items hv => absurd hv (hlist items)

/-- A mapping with none of the keys, or with more than one, is told by listing its keys. -/
lemma complaints_of_noKey {entries : List (Value × Value)}
    (h : ∀ key ∈ specKeys, ¬ OnlyKey key entries) :
    complaints (.dict entries) =
      (do return Matcher.complain (.keyCount (← sortedKeys entries))) := by
  have hkeys (key : String) (hmem : key ∈ specKeys) : kindKeys entries ≠ [key] :=
    fun hk => h key hmem ((kindKeys_eq_singleton_iff hmem entries).mp hk)
  rw [complaints]
  split
  next hk => exact absurd hk (hkeys _ (by decide))
  next hk => exact absurd hk (hkeys _ (by decide))
  next hk => exact absurd hk (hkeys _ (by decide))
  next hk => exact absurd hk (hkeys _ (by decide))
  next => rfl

/-! ### The check of specifications -/

lemma Breaks.complaints_fails {v : Value} (h : Breaks v) :
    ∃ failure, complaints v = .error failure := by
  induction h with
  | keys hkey h =>
    obtain ⟨failure, hfails⟩ := (sortedKeys_fails_iff _).mpr h
    exact ⟨failure, by rw [complaints_of_noKey hkey, hfails]; rfl⟩
  | regex hkey hp h =>
    rw [complaints_regex hkey, Value.fieldD, hp, Option.getD_some]
    exact (regexProblem_fails_iff _ _).mpr h
  | joint joint hkey hitems hmem _ ih =>
    rw [complaints_joint hkey hitems]
    exact (listComplaints_fails_iff _ _).mpr ⟨_, rfl, _, hmem, ih⟩

lemma breaks_of_complaints (v : Value) {failure : SpecFailure}
    (h : complaints v = .error failure) : Breaks v := by
  match v, h with
  | .str s, h => simp [complaints] at h
  | .dict entries, h =>
    by_cases hno : ∀ key ∈ specKeys, ¬ OnlyKey key entries
    · refine .keys hno ((sortedKeys_fails_iff entries).mp ?_)
      rw [complaints_of_noKey hno] at h
      cases hsorted : sortedKeys entries with
      | ok keys =>
        rw [hsorted] at h
        cases h
      | error failure => exact ⟨failure, rfl⟩
    · simp only [not_forall, not_not] at hno
      obtain ⟨key, hmem, hkey⟩ := hno
      obtain ⟨w, hw⟩ := Option.isSome_iff_exists.mp ((hkey key hmem).mpr rfl)
      rcases specKeys_cases hmem with rfl | rfl | ⟨joint, rfl⟩
      · rw [complaints_literal hkey] at h
        cases h
      · rw [complaints_regex hkey, Value.fieldD, hw, Option.getD_some] at h
        exact .regex hkey hw ((regexProblem_fails_iff w _).mp ⟨failure, h⟩)
      · rw [complaints_joint hkey hw] at h
        obtain ⟨items, rfl, item, hitem, failure', hitems⟩ :=
          (listComplaints_fails_iff joint w).mp ⟨failure, h⟩
        exact .joint joint hkey hw hitem (breaks_of_complaints item hitems)
  | .null, h | .bool _, h | .int _, h | .float _, h | .bytes _, h | .date _, h | .moment _, h
  | .list _, h | .tuple _, h | .set _, h => simp [complaints] at h
termination_by sizeOf v
decreasing_by
  have hfield := Value.sizeOf_find?_lt hw
  have hmem := List.sizeOf_lt_of_mem hitem
  simp_all
  omega

/-- **The check breaks off exactly on these specifications.** -/
theorem complaints_fails_iff (v : Value) :
    (∃ failure, complaints v = .error failure) ↔ Breaks v :=
  ⟨fun ⟨_, h⟩ => breaks_of_complaints v h, Breaks.complaints_fails⟩

end Spec

end LineAudit
