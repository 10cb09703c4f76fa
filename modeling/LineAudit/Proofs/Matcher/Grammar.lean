import LineAudit.Matcher.Spec
import LineAudit.Proofs.Lists
import LineAudit.Proofs.Matcher.Usable
import LineAudit.Proofs.Outcome

/-!
The grammar of specifications of matchers.

A specification is a text that is not empty, or a mapping with one of four keys whose value fits
the key. Main result: the check of specifications finds nothing to complain about exactly in those
of the grammar.
-/

namespace LineAudit

namespace Value

lemma sizeOf_find?_lt {key v : Value} {entries : List (Value × Value)}
    (h : find? key entries = some v) : sizeOf v < sizeOf entries := by
  induction entries with
  | nil => simp [find?] at h
  | cons e rest ih =>
    obtain ⟨k, w⟩ := e
    rw [find?] at h
    split at h
    · obtain rfl := Option.some.inj h
      simp
      omega
    · have := ih h
      simp
      omega

/-- A walk over a mapping that stops at a key goes on with the value at that key. -/
lemma eq_of_find? {α : Type} {key v : Value} {f : List (Value × Value) → α} {g : Value → α}
    (hf : ∀ k w rest, f ((k, w) :: rest) = if sameKey k key then g w else f rest)
    {entries : List (Value × Value)} (h : find? key entries = some v) : f entries = g v := by
  induction entries with
  | nil => simp [find?] at h
  | cons e rest ih =>
    obtain ⟨k, w⟩ := e
    rw [find?] at h
    rw [hf]
    split at h
    next hk =>
      obtain rfl := Option.some.inj h
      rw [if_pos hk]
    next hk =>
      rw [if_neg hk]
      exact ih h

end Value

lemma Joint.key_mem (joint : Joint) : joint.key ∈ specKeys := by
  cases joint <;> decide

lemma specKeys_cases {key : String} (h : key ∈ specKeys) :
    key = "literal" ∨ key = "regex" ∨ ∃ joint : Joint, key = joint.key := by
  simp only [specKeys, List.mem_cons, List.not_mem_nil, or_false] at h
  rcases h with rfl | rfl | rfl | rfl
  · exact .inl rfl
  · exact .inr (.inl rfl)
  · exact .inr (.inr ⟨.any, rfl⟩)
  · exact .inr (.inr ⟨.all, rfl⟩)

namespace Spec

/-- Of the keys that say what a mapping is, it has this one and no other. -/
def OnlyKey (key : String) (entries : List (Value × Value)) : Prop :=
  ∀ k ∈ specKeys, (Value.field? k entries).isSome ↔ k = key

/-- The grammar of specifications. -/
inductive WellFormed : Value → Prop
  | text {s : String} (h : s ≠ "") : WellFormed (.str s)
  | literal {entries : List (Value × Value)} {s : String} (hkey : OnlyKey "literal" entries)
      (hs : Value.field? "literal" entries = some (.str s)) (hne : s ≠ "") :
      WellFormed (.dict entries)
  | regex {entries : List (Value × Value)} {s : String} (hkey : OnlyKey "regex" entries)
      (hs : Value.field? "regex" entries = some (.str s)) (hne : s ≠ "")
      (hc : ∃ program, Pattern.compile s (ignoresCase entries) = .ok program) :
      WellFormed (.dict entries)
  | joint (joint : Joint) {entries : List (Value × Value)} {items : List Value}
      (hkey : OnlyKey joint.key entries)
      (hitems : Value.field? joint.key entries = some (.list items)) (hne : items ≠ [])
      (h : ∀ item ∈ items, WellFormed item) : WellFormed (.dict entries)

/-! ### Keys of mappings -/

lemma kindKeys_eq_singleton_iff {key : String} (h : key ∈ specKeys)
    (entries : List (Value × Value)) : kindKeys entries = [key] ↔ OnlyKey key entries := by
  unfold kindKeys OnlyKey
  constructor
  · intro hkeys k hk
    have hmem : k ∈ specKeys.filter (fun k => (Value.field? k entries).isSome) ↔ _ :=
      List.mem_filter
    rw [hkeys, List.mem_singleton] at hmem
    rw [hmem]
    simp [hk]
  · intro hall
    have hsame : specKeys.filter (fun k => (Value.field? k entries).isSome) =
        specKeys.filter (· == key) :=
      List.filter_congr fun k hk => by rw [Bool.eq_iff_iff, hall k hk, beq_iff_eq]
    rw [hsame, List.filter_beq, List.count_eq_one_of_mem (by decide) h, List.replicate_one]

lemma OnlyKey.isSome {key k : String} {entries : List (Value × Value)} (h : OnlyKey key entries)
    (hk : k ∈ specKeys) : (Value.field? k entries).isSome = (k == key) := by
  rw [Bool.eq_iff_iff, h k hk, beq_iff_eq]

/-! ### The check of a mapping -/

lemma entryComplaints_eq {joint : Joint} {entries : List (Value × Value)} {v : Value}
    (h : Value.field? joint.key entries = some v) :
    entryComplaints joint entries = listComplaints joint v :=
  Value.eq_of_find? (fun k w rest => by rw [entryComplaints]) h

lemma itemComplaints_eq_nil_iff (joint : Joint) (index : ℕ) (items : List Value) :
    itemComplaints joint index items = .ok [] ↔ ∀ item ∈ items, complaints item = .ok [] := by
  induction items generalizing index with
  | nil => simp [itemComplaints]
  | cons item rest ih =>
    rw [itemComplaints, append_eq_nil_iff, ih (index + 1), List.forall_mem_cons]

lemma listComplaints_eq_nil_iff (joint : Joint) (v : Value) :
    listComplaints joint v = .ok [] ↔
      ∃ items, v = .list items ∧ items ≠ [] ∧ ∀ item ∈ items, complaints item = .ok [] := by
  unfold listComplaints
  split
  next => simp [Matcher.complain]
  next items hne =>
    rw [itemComplaints_eq_nil_iff]
    simpa using fun _ => hne
  next v hempty hlist => simpa [Matcher.complain] using fun items hv => absurd hv (hlist items)

lemma regexProblem_eq_nil_iff (pattern : Value) (ignoreCase : Bool) :
    regexProblem pattern ignoreCase = .ok [] ↔ ∃ s, pattern = .str s ∧ s ≠ "" ∧
      ∃ program, Pattern.compile s ignoreCase = .ok program := by
  constructor
  · intro h
    unfold regexProblem at h
    split at h
    next r hr =>
      obtain ⟨rfl, rfl⟩ := Regex.make_eq_ok_iff.mp hr
      exact Regex.problem?_eq_none_iff_compiles.mp
        (Matcher.regexComplaints_eq_nil_iff.mp (Except.ok.inj h))
    next => simp at h
  · rintro ⟨s, rfl, hne, program, hc⟩
    obtain ⟨r, hmake, hr⟩ := Regex.make_of_compiles hne hc
    simp [regexProblem, hmake, Matcher.regexComplaints_eq_nil_iff, hr]

lemma literalProblem_eq_nil_iff (v : Value) :
    literalProblem v = [] ↔ ∃ s, v = .str s ∧ s ≠ "" := by
  unfold literalProblem
  split
  next s => simp [Matcher.complain]
  next hno => simpa [Matcher.complain] using fun s hs => absurd hs (hno s)

/-! ### The check of specifications -/

lemma complaints_literal {entries : List (Value × Value)} (h : OnlyKey "literal" entries) :
    complaints (.dict entries) = .ok (literalProblem (Value.fieldD "literal" entries)) := by
  rw [complaints, (kindKeys_eq_singleton_iff (by decide) entries).mpr h]
  rfl

lemma complaints_regex {entries : List (Value × Value)} (h : OnlyKey "regex" entries) :
    complaints (.dict entries) =
      regexProblem (Value.fieldD "regex" entries) (ignoresCase entries) := by
  rw [complaints, (kindKeys_eq_singleton_iff (by decide) entries).mpr h]
  rfl

lemma complaints_joint {joint : Joint} {entries : List (Value × Value)} {v : Value}
    (h : OnlyKey joint.key entries) (hv : Value.field? joint.key entries = some v) :
    complaints (.dict entries) = listComplaints joint v := by
  rw [← entryComplaints_eq hv, complaints, (kindKeys_eq_singleton_iff joint.key_mem entries).mpr h]
  cases joint <;> rfl

/-- A mapping in which the check finds nothing has exactly one of the keys. -/
lemma onlyKey_of_complaints {entries : List (Value × Value)}
    (h : complaints (.dict entries) = .ok []) : ∃ key ∈ specKeys, OnlyKey key entries := by
  rw [complaints] at h
  split at h
  next hk => exact ⟨_, by decide, (kindKeys_eq_singleton_iff (by decide) entries).mp hk⟩
  next hk => exact ⟨_, by decide, (kindKeys_eq_singleton_iff (by decide) entries).mp hk⟩
  next hk => exact ⟨_, by decide, (kindKeys_eq_singleton_iff (by decide) entries).mp hk⟩
  next hk => exact ⟨_, by decide, (kindKeys_eq_singleton_iff (by decide) entries).mp hk⟩
  next =>
    obtain ⟨keys, -, hkeys⟩ := bind_eq_ok_iff.mp h
    simp [Matcher.complain, pure_eq_ok_iff] at hkeys

lemma WellFormed.complaints_eq {v : Value} (h : WellFormed v) : complaints v = .ok [] := by
  induction h with
  | text h => simp [complaints, h]
  | literal hkey hs hne =>
    rw [complaints_literal hkey, Value.fieldD, hs, Option.getD_some]
    rw [(literalProblem_eq_nil_iff _).mpr ⟨_, rfl, hne⟩]
  | regex hkey hs hne hc =>
    rw [complaints_regex hkey, Value.fieldD, hs, Option.getD_some]
    exact (regexProblem_eq_nil_iff _ _).mpr ⟨_, rfl, hne, hc⟩
  | joint joint hkey hitems hne _ ih =>
    rw [complaints_joint hkey hitems]
    exact (listComplaints_eq_nil_iff _ _).mpr ⟨_, rfl, hne, ih⟩

lemma wellFormed_of_complaints (v : Value) (h : complaints v = .ok []) : WellFormed v := by
  match v, h with
  | .str s, h =>
    refine .text fun hs => ?_
    simp [complaints, hs, Matcher.complain] at h
  | .dict entries, h =>
    obtain ⟨key, hmem, hkey⟩ := onlyKey_of_complaints h
    obtain ⟨w, hw⟩ := Option.isSome_iff_exists.mp ((hkey key hmem).mpr rfl)
    rcases specKeys_cases hmem with rfl | rfl | ⟨joint, rfl⟩
    · rw [complaints_literal hkey, Value.fieldD, hw, Option.getD_some] at h
      obtain ⟨s, rfl, hne⟩ := (literalProblem_eq_nil_iff w).mp (Except.ok.inj h)
      exact .literal hkey hw hne
    · rw [complaints_regex hkey, Value.fieldD, hw, Option.getD_some] at h
      obtain ⟨s, rfl, hne, hc⟩ := (regexProblem_eq_nil_iff w _).mp h
      exact .regex hkey hw hne hc
    · rw [complaints_joint hkey hw] at h
      obtain ⟨items, rfl, hne, hitems⟩ := (listComplaints_eq_nil_iff joint w).mp h
      exact .joint joint hkey hw hne fun item hitem =>
        wellFormed_of_complaints item (hitems item hitem)
  | .null, h | .bool _, h | .int _, h | .float _, h | .bytes _, h | .date _, h | .moment _, h
  | .list _, h | .tuple _, h | .set _, h => simp [complaints, Matcher.complain] at h
termination_by sizeOf v
decreasing_by
  have hfield := Value.sizeOf_find?_lt hw
  have hmem := List.sizeOf_lt_of_mem hitem
  simp_all
  omega

/-- **The check recognises the grammar.** -/
theorem complaints_eq_nil_iff (v : Value) : complaints v = .ok [] ↔ WellFormed v :=
  ⟨wellFormed_of_complaints v, WellFormed.complaints_eq⟩

end Spec

end LineAudit
