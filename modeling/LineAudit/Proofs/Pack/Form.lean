import LineAudit.Pack
import LineAudit.Proofs.Matcher.Build

/-!
The form of the rules of a pack, and the drafts made of them.

The first look at a pack checks the form of its rules alone. Main results: it finds nothing exactly
in rules that have all required keys and specifications of the grammar, and a rule of this form
makes a draft exactly when its id and its description can be written.
-/

namespace LineAudit

namespace Pack

/-- The list under a key of a mapping. A missing key stands for the empty list, and there is none
where something else than a list stands. -/
def listAt? (key : String) (entries : List (Value × Value)) : Option (List Value) :=
  match Value.field? key entries with
  | none => some []
  | some (.list items) => some items
  | some _ => none

/-- The id of a rule of a pack. -/
def idText (entries : List (Value × Value)) : String := (Value.fieldD "id" entries).text

/-- A rule of a pack that has the right form, whatever its id and its severity are. -/
structure Shaped (entries : List (Value × Value)) : Prop where
  hasKeys : ∀ key ∈ requiredKeys, (Value.field? key entries).isSome
  pattern : Spec.WellFormed (Value.fieldD "pattern" entries)
  exclude : ∃ specs, listAt? "exclude" entries = some specs ∧ ∀ spec ∈ specs, Spec.WellFormed spec

/-- The id and the description of a rule can be written. -/
def Writable (entries : List (Value × Value)) : Prop :=
  (Value.fieldD "id" entries).isWritable ∧ (Value.fieldD "description" entries).isWritable

variable {entries : List (Value × Value)}

/-! ### The check of the form -/

lemma written_eq_ok_iff {v : Value} {s : String} :
    written v = .ok s ↔ v.isWritable ∧ v.text = s := by
  unfold written
  split
  next h => simp [h]
  next h => simp [h]

lemma checkSpec_eq_nil_iff (spec : Value) : checkSpec spec = .ok [] ↔ Spec.WellFormed spec := by
  rw [← Spec.complaints_eq_nil_iff]
  unfold checkSpec
  split
  next cs h => simp [h]
  next failure h => simp [h]

lemma missingKeys_eq_nil_iff :
    missingKeys entries = [] ↔ ∀ key ∈ requiredKeys, (Value.field? key entries).isSome := by
  simp [missingKeys, List.filter_eq_nil_iff, Option.isSome_iff_ne_none]

lemma patternProblems_eq_nil_iff (h : (Value.field? "pattern" entries).isSome) :
    patternProblems entries = .ok [] ↔ Spec.WellFormed (Value.fieldD "pattern" entries) := by
  obtain ⟨spec, hspec⟩ := Option.isSome_iff_exists.mp h
  rw [Value.fieldD, hspec, Option.getD_some, ← checkSpec_eq_nil_iff]
  simp [patternProblems, hspec, map_eq_ok_iff]

lemma excludeListProblems_eq_nil_iff (index : ℕ) (specs : List Value) :
    excludeListProblems index specs = .ok [] ↔ ∀ spec ∈ specs, Spec.WellFormed spec := by
  induction specs generalizing index with
  | nil => simp [excludeListProblems, pure_eq_ok_iff]
  | cons spec rest ih =>
    rw [excludeListProblems, append_eq_nil_iff, ih (index + 1), checkSpec_eq_nil_iff,
      List.forall_mem_cons]

lemma listAt?_eq_some_iff {key : String} {items : List Value} :
    listAt? key entries = some items ↔
      Value.field? key entries = none ∧ items = [] ∨
        Value.field? key entries = some (.list items) := by
  unfold listAt?
  split
  next h => simp [h, eq_comm]
  next h => simp [h]
  next v hlist h => simpa [h] using fun hv => hlist items hv

lemma excludeProblems_eq_nil_iff : excludeProblems entries = .ok [] ↔
    ∃ specs, listAt? "exclude" entries = some specs ∧ ∀ spec ∈ specs, Spec.WellFormed spec := by
  unfold excludeProblems
  simp only [listAt?_eq_some_iff]
  split
  next h => simp [h, pure_eq_ok_iff]
  next specs h => simp [h, excludeListProblems_eq_nil_iff]
  next v hlist h => simpa [h, pure_eq_ok_iff] using fun specs hspecs => (hlist specs hspecs).elim

lemma formProblems_eq_nil_iff : formProblems entries = .ok [] ↔ Shaped entries := by
  constructor
  · intro h
    simp only [formProblems, bind_eq_ok_iff, pure_eq_ok_iff, List.append_eq_nil_iff] at h
    obtain ⟨_, hpattern, _, hexclude, ⟨hmissing, rfl⟩, rfl⟩ := h
    have hkeys : ∀ key ∈ requiredKeys, (Value.field? key entries).isSome := by
      rw [← missingKeys_eq_nil_iff]
      by_contra hne
      simp [List.isEmpty_iff, hne] at hmissing
    exact ⟨hkeys, (patternProblems_eq_nil_iff (hkeys _ (by decide))).mp hpattern,
      excludeProblems_eq_nil_iff.mp hexclude⟩
  · rintro ⟨hkeys, hpattern, hexclude⟩
    have hmissing := missingKeys_eq_nil_iff.mpr hkeys
    have hpattern := (patternProblems_eq_nil_iff (hkeys _ (by decide))).mpr hpattern
    rw [formProblems, hmissing, hpattern, excludeProblems_eq_nil_iff.mpr hexclude]
    rfl

lemma Shaped.label_eq_ok_iff (h : Shaped entries) :
    (∃ name, label entries = .ok name) ↔ (Value.fieldD "id" entries).isWritable := by
  obtain ⟨id, hid⟩ := Option.isSome_iff_exists.mp (h.hasKeys "id" (by decide))
  simp [label, Value.fieldD, hid, written_eq_ok_iff]

/-- The first look at a pack finds nothing when all its rules are mappings of the right form, the
ids of which can be written. -/
lemma entryProblems_eq_nil_iff (index : ℕ) (items : List Value) :
    entryProblems index items = .ok [] ↔ ∃ rules : List (List (Value × Value)),
      items = rules.map .dict ∧ ∀ r ∈ rules, Shaped r ∧ (Value.fieldD "id" r).isWritable := by
  induction items generalizing index with
  | nil => simp [entryProblems, pure_eq_ok_iff]
  | cons v rest ih =>
    by_cases hdict : ∃ entries, v = .dict entries
    · obtain ⟨entries, rfl⟩ := hdict
      rw [entryProblems, bind_eq_ok_iff]
      simp only [append_eq_nil_iff, formProblems_eq_nil_iff, ih (index + 1)]
      constructor
      · rintro ⟨name, hname, hform, rules, rfl, hrules⟩
        refine ⟨entries :: rules, rfl, List.forall_mem_cons.mpr ⟨⟨hform, ?_⟩, hrules⟩⟩
        exact hform.label_eq_ok_iff.mp ⟨name, hname⟩
      · rintro ⟨rules, hmap, hrules⟩
        obtain ⟨r, rules, rfl, hr, rfl⟩ := List.map_eq_cons_iff.mp hmap.symm
        obtain rfl := Value.dict.inj hr
        obtain ⟨⟨hform, hid⟩, hrest⟩ := List.forall_mem_cons.mp hrules
        obtain ⟨name, hname⟩ := hform.label_eq_ok_iff.mpr hid
        exact ⟨name, hname, hform, rules, rfl, hrest⟩
    · constructor
      · intro h
        rw [entryProblems] at h
        · obtain ⟨later, -, hlater⟩ := bind_eq_ok_iff.mp h
          simp [pure_eq_ok_iff] at hlater
        · exact fun entries hv => hdict ⟨entries, hv⟩
      · rintro ⟨rules, hmap, -⟩
        obtain ⟨r, -, -, hr, -⟩ := List.map_eq_cons_iff.mp hmap.symm
        exact absurd ⟨r, hr.symm⟩ hdict

/-! ### Drafts -/

/-- A draft has the parts that a rule of a pack says. -/
structure Drafts (entries : List (Value × Value)) (d : Draft) : Prop where
  id : d.id = .str (idText entries)
  description : d.description = .str (Value.fieldD "description" entries).text
  severity : d.severity = .raw (Value.fieldD "severity" entries)
  matcher : Spec.Mirrors (Value.fieldD "pattern" entries) d.matcher
  usable : d.matcher.Usable
  exclusions : ∃ specs matchers, listAt? "exclude" entries = some specs ∧
    d.exclusions = .list matchers ∧ List.Forall₂ Spec.Mirrors specs matchers ∧
      ∀ m ∈ matchers, m.Usable
  recommendation : d.recommendation = Value.fieldD "recommendation" entries

lemma buildMatcher_eq_ok_iff {spec : Value} {m : Matcher} :
    buildMatcher spec = .ok m ↔ Spec.build spec = .ok m := by
  unfold buildMatcher
  split
  next h => simp [h]
  next h => simp [h]

lemma buildExclusions_eq {specs : List Value} (h : listAt? "exclude" entries = some specs) :
    buildExclusions entries = specs.mapM buildMatcher := by
  unfold buildExclusions
  rcases listAt?_eq_some_iff.mp h with ⟨hnone, rfl⟩ | hlist
  · simp [hnone]
  · rw [hlist]

lemma Shaped.buildsExclusions (h : Shaped entries) : ∃ specs matchers,
    listAt? "exclude" entries = some specs ∧ buildExclusions entries = .ok matchers ∧
      List.Forall₂ Spec.Mirrors specs matchers ∧ ∀ m ∈ matchers, m.Usable := by
  obtain ⟨specs, hspecs, hwell⟩ := h.exclude
  obtain ⟨matchers, hall⟩ := exists_forall₂ fun spec hspec => (hwell spec hspec).builds
  refine ⟨specs, matchers, hspecs, ?_, hall.imp fun _ _ h => h.2.1,
    forall_right_of_forall₂ hall fun _ _ h => h.2.2⟩
  rw [buildExclusions_eq hspecs, mapM_eq_ok_iff]
  exact hall.imp fun _ _ h => buildMatcher_eq_ok_iff.mpr h.1

/-- A rule of the right form makes a draft when what it says can be written. -/
lemma Shaped.draft_of_writable (h : Shaped entries) (hw : Writable entries) :
    ∃ d, draft entries = .ok d ∧ Drafts entries d := by
  obtain ⟨m, hm, hmirrors, husable⟩ := h.pattern.builds
  obtain ⟨specs, matchers, hspecs, hbuild, hall, hallUsable⟩ := h.buildsExclusions
  have hid := written_eq_ok_iff.mpr ⟨hw.1, rfl⟩
  have hdescription := written_eq_ok_iff.mpr ⟨hw.2, rfl⟩
  refine ⟨⟨.str (idText entries), .str (Value.fieldD "description" entries).text,
    .raw (Value.fieldD "severity" entries), m, .list matchers,
    Value.fieldD "recommendation" entries⟩, ?_, ?_⟩
  · rw [draft, hid, hdescription, buildMatcher_eq_ok_iff.mpr hm, hbuild]
    rfl
  · exact ⟨rfl, rfl, rfl, hmirrors, husable, ⟨specs, matchers, hspecs, rfl, hall, hallUsable⟩, rfl⟩

lemma writable_of_draft {d : Draft} (h : draft entries = .ok d) : Writable entries := by
  simp only [draft, bind_eq_ok_iff] at h
  obtain ⟨id, hid, description, hdescription, -⟩ := h
  exact ⟨(written_eq_ok_iff.mp hid).1, (written_eq_ok_iff.mp hdescription).1⟩

end Pack

end LineAudit
