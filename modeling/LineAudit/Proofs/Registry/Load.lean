import LineAudit.Proofs.Registry.Messages
import LineAudit.Proofs.Value.Order

/-!
What a registry answers, and what is reported when none is made.

Main result: a registry is made of sound entries with distinct ids and shows all of them in order,
and otherwise the report tells all that is wrong with every entry.
-/

namespace LineAudit

variable {σ : Type}

/-- A matcher, and one about which there is nothing to complain. -/
def Matcher.Valid (m : Matcher) : Prop := m.foreignKind? = none ∧ m.complaints = []

lemma Matcher.valid_iff {m : Matcher} : m.Valid ↔ m.complaints = [] := by
  refine ⟨fun h => h.2, fun h => ⟨?_, h⟩⟩
  cases m with
  | foreign v => simp [complaints_foreign, complain] at h
  | literal | regex | any | all | alarmed => rfl

/-- A draft in which nothing is wrong by itself. -/
structure Draft.Sound (d : Draft) : Prop where
  id : ∃ s, d.id = .str s ∧ Text.isAllBlank s = false
  severity : ∃ s, d.severity.read = .ok s
  matcher : d.matcher.Valid
  exclusions : ∃ items, (d.exclusions = .list items ∨ d.exclusions = .tuple items) ∧
    ∀ x ∈ items, x.Valid

lemma Draft.exists_makes_iff {d : Draft} : (∃ r, d.Makes r) ↔ d.Sound := by
  constructor
  · rintro ⟨r, h⟩
    exact ⟨⟨r.id, h.id, h.notBlank⟩, ⟨r.severity, h.severity⟩,
      Matcher.valid_iff.mpr (h.matcher ▸ h.noComplaints), r.exclusions, h.exclusions,
      fun x hx => Matcher.valid_iff.mpr (h.noExclusionComplaints x hx)⟩
  · rintro ⟨⟨id, hid, hb⟩, ⟨severity, hs⟩, hm, items, he, hx⟩
    exact ⟨⟨id, d.description, severity, d.matcher, items, d.recommendation⟩,
      hid, hb, rfl, hs, rfl, Matcher.valid_iff.mp hm, he,
      fun x hmem => Matcher.valid_iff.mp (hx x hmem), rfl⟩

namespace Entry

/-- An entry that is a draft in which nothing is wrong by itself. -/
def Sound : Entry → Prop
  | .draft d => d.Sound
  | .foreign _ => False

lemma exists_makes_iff {e : Entry} : (∃ r, e.Makes r) ↔ e.Sound := by
  cases e with
  | draft d => exact d.exists_makes_iff
  | foreign v => simp [Makes, Sound]

lemma Makes.id?_eq {e : Entry} {r : Rule Severity} (h : e.Makes r) : e.id? = some r.id := by
  cases e with
  | draft d => exact Draft.Makes.id?_eq h
  | foreign v => exact h.elim

/-- An entry, its index and whether its id comes again settle what is told of it. -/
lemma Told.unique {index : ℕ} {repeated : Prop} {e : Entry} {lines lines' : List String}
    (h : e.Told index repeated lines) (h' : e.Told index repeated lines') : lines = lines' := by
  cases h with
  | foreign v =>
    cases h'
    rfl
  | @rule d _ _ _ _ _ hname hid hseverity hmatcher hexclusions =>
    cases h' with
    | rule hname' hid' hseverity' hmatcher' hexclusions' =>
      rw [hname, hname', hid.unique hid',
        ← (d.toldOfSeverity_iff _).mp hseverity, ← (d.toldOfSeverity_iff _).mp hseverity',
        ← (d.toldOfMatcher_iff _).mp hmatcher, ← (d.toldOfMatcher_iff _).mp hmatcher',
        ← (d.toldOfExclusions_iff _).mp hexclusions, ← (d.toldOfExclusions_iff _).mp hexclusions']

end Entry

namespace Registry

/-! ### What a registry answers -/

/-- All that a registry can be asked is answered by some rules. -/
structure Shows (r : Registry σ) (shown : List (Rule σ)) : Prop where
  rules : r.rules = shown
  ids : r.ids = shown.map Rule.id
  size : r.size = shown.length
  get : ∀ v rule, r.get v = .ok rule ↔ rule ∈ shown ∧ v = .str rule.id
  contains : ∀ v, r.contains v = .ok true ↔ ∃ rule ∈ shown, v = .str rule.id

variable {r : Registry σ}

lemma get_eq_ok_iff {v : Value} {rule : Rule σ} :
    r.get v = .ok rule ↔ ∃ id, v = .str id ∧ r.find? id = some rule := by
  cases v with
  | str id =>
    simp only [get, Value.isKey, Value.str?, Option.bind_some]
    cases h : r.find? id <;> simp [h]
  | _ => simp [get, Value.isKey, Value.str?]

lemma contains_eq_true_iff {v : Value} :
    r.contains v = .ok true ↔ ∃ rule, r.get v = .ok rule := by
  simp only [get_eq_ok_iff]
  cases v with
  | str id =>
    simp only [contains, Value.isKey, Value.str?, Option.bind_some]
    cases h : r.find? id <;> simp [h]
  | _ => simp [contains, Value.isKey, Value.str?]

/-- No two rules have one id, so that the first rule found with an id is the one with it. -/
lemma find?_eq_some_iff (hnd : r.ids.Nodup) {id : String} {rule : Rule σ} :
    r.find? id = some rule ↔ rule ∈ r.rules ∧ rule.id = id := by
  constructor
  · intro h
    exact ⟨List.mem_of_find?_eq_some h, by simpa using List.find?_some h⟩
  · rintro ⟨hmem, rfl⟩
    cases h : r.find? rule.id with
    | none =>
      have hno := List.find?_eq_none.mp h rule hmem
      simp at hno
    | some rule' =>
      have hid : rule'.id = rule.id := by simpa using List.find?_some h
      rw [List.inj_on_of_nodup_map hnd (List.mem_of_find?_eq_some h) hmem hid]

lemma shows_rules (hnd : r.ids.Nodup) : r.Shows r.rules := by
  have hget (v : Value) (rule : Rule σ) :
      r.get v = .ok rule ↔ rule ∈ r.rules ∧ v = .str rule.id := by
    rw [get_eq_ok_iff]
    constructor
    · rintro ⟨id, rfl, hfind⟩
      obtain ⟨hmem, rfl⟩ := (find?_eq_some_iff hnd).mp hfind
      exact ⟨hmem, rfl⟩
    · rintro ⟨hmem, rfl⟩
      exact ⟨rule.id, rfl, (find?_eq_some_iff hnd).mpr ⟨hmem, rfl⟩⟩
  refine ⟨rfl, rfl, rfl, hget, fun v => ?_⟩
  simp only [contains_eq_true_iff, hget]

/-! ### Loading -/

/-- A report is made when no registry is, if the names of all entries can be told. -/
lemma load_eq_invalid {entries : List Entry} (hnames : ∀ e ∈ entries, e.hasWritableId)
    (hno : ¬ ∃ registry, load entries = .ok registry) :
    entryProblems 0 [] entries ≠ [] ∧
      load entries = .error (.invalid (entryProblems 0 [] entries)) := by
  unfold load at hno ⊢
  rw [if_pos (List.all_eq_true.mpr hnames)] at hno ⊢
  split at hno
  next => exact absurd ⟨_, rfl⟩ hno
  next hne => exact ⟨hne, rfl⟩

lemma exists_load_iff (entries : List Entry) :
    (∃ registry, load entries = .ok registry) ↔
      (∀ e ∈ entries, e.Sound) ∧ (entries.filterMap Entry.id?).Nodup := by
  simp only [load_eq_ok_iff]
  have hids {rules : List (Rule Severity)} (h : List.Forall₂ Entry.Makes entries rules) :
      entries.filterMap Entry.id? = rules.map Rule.id := by
    induction h with
    | nil => rfl
    | cons her _ ih => rw [List.filterMap_cons_some her.id?_eq, ih, List.map_cons]
  constructor
  · rintro ⟨registry, hmakes, hnd⟩
    refine ⟨forall_left_of_forall₂ hmakes fun e r her => Entry.exists_makes_iff.mp ⟨r, her⟩, ?_⟩
    rw [hids hmakes]
    exact hnd
  · rintro ⟨hsound, hnd⟩
    obtain ⟨rules, hmakes⟩ := exists_forall₂ fun e he => Entry.exists_makes_iff.mpr (hsound e he)
    refine ⟨⟨rules⟩, hmakes, ?_⟩
    rw [ids, ← hids hmakes]
    exact hnd

/-- The rules of a registry, handed in again, make the registry again. -/
lemma load_entries {entries : List Entry} {registry : Registry Severity}
    (h : load entries = .ok registry) : load registry.marked.entries = .ok registry := by
  obtain ⟨hmakes, hnd⟩ := load_eq_ok_iff.mp h
  refine load_eq_ok_iff.mpr ⟨?_, hnd⟩
  rw [Registry.entries, marked, List.map_map, List.forall₂_map_left_iff, List.forall₂_same]
  refine forall_right_of_forall₂ hmakes fun e r her => ?_
  cases e with
  | foreign v => exact her.elim
  | draft d =>
    exact ⟨rfl, her.notBlank, rfl, rfl, rfl, her.noComplaints, .inl rfl,
      her.noExclusionComplaints, rfl⟩

/-- **A registry is made of all entries or of none.** It is made exactly of sound entries with
distinct ids. Then it shows one rule for each entry, in order and with the parts of the entry, and
its rules make it again when they are handed in. Otherwise a report tells all that is wrong, one
entry after the other, unless the id of a rule holds a number that is too long to be told. An entry
and its index alone say what is told of it, but for an id that comes again, which is told exactly
where an earlier entry has it. -/
theorem load_allOrNothing (entries : List Entry) :
    ((∃ registry, load entries = .ok registry) ↔
      (∀ e ∈ entries, e.Sound) ∧ (entries.filterMap Entry.id?).Nodup) ∧
    (∀ registry, load entries = .ok registry →
      (∃ rules, List.Forall₂ Entry.Makes entries rules ∧ registry.Shows rules) ∧
        load registry.marked.entries = .ok registry) ∧
    ((∀ e ∈ entries, e.hasWritableId) → (¬ ∃ registry, load entries = .ok registry) →
      ∃ problems lines, load entries = .error (.invalid problems) ∧
        validationText problems = "rule validation failed:\n  " ++ "\n  ".intercalate lines ∧
        lines ≠ [] ∧
        ToldInTurn (fun i e => e.Told i (Entry.RepeatedAt entries i)) entries lines) ∧
    ∀ (index : ℕ) (repeated : Prop) (e : Entry) (lines lines' : List String),
      e.Told index repeated lines → e.Told index repeated lines' → lines = lines' := by
  refine ⟨exists_load_iff entries, fun registry h => ⟨?_, load_entries h⟩,
    fun hnames hno => ?_, fun index repeated e lines lines' h h' => h.unique h'⟩
  · obtain ⟨hmakes, hnd⟩ := load_eq_ok_iff.mp h
    exact ⟨registry.rules, hmakes, shows_rules hnd⟩
  · obtain ⟨hne, hload⟩ := load_eq_invalid hnames hno
    exact ⟨_, (entryProblems 0 [] entries).map EntryProblem.text, hload, rfl,
      by simpa using hne, (Entry.toldInTurn_iff_entryProblems entries _).mpr rfl⟩

/-- A rule with a severity by name that looks for an `x`, and has a tuple of exclusions. -/
def entryFor (id severity : String) : Entry :=
  .draft ⟨.str id, .null, .raw (.str severity), .literal 0 (.str "x"),
    .tuple [.literal 0 (.str "/")], .null⟩

/-- Entries of which the second is no rule, and the third has the id of the first and no known
severity. -/
def mixedEntries : List Entry := [entryFor "A" " LOW", .foreign .null, entryFor "A" "urgent"]

theorem load_allOrNothing_mixedEntries :
    (∃ problems, load mixedEntries = .error (.invalid problems) ∧
      validationText problems = "rule validation failed:\n  " ++ "\n  ".intercalate [
        "rules[1]: expected Rule, got NoneType",
        "rules[2] (id=A): duplicate rule id 'A'",
        "rules[2] (id=A): unknown severity 'urgent' " ++
          "(valid: critical, high, medium, low, informational)"]) ∧
    ∃ registry, load [entryFor "A" " LOW", entryFor "B" "info"] = .ok registry ∧
      load registry.marked.entries = .ok registry ∧ registry.Shows registry.rules := by
  have hmixed := load_allOrNothing mixedEntries
  have hgood := load_allOrNothing [entryFor "A" " LOW", entryFor "B" "info"]
  have hno : ¬ ∃ registry, load mixedEntries = .ok registry := by
    rw [hmixed.1]
    rintro ⟨hsound, -⟩
    exact hsound (.foreign .null) (by simp [mixedEntries])
  obtain ⟨problems, -, hproblems, -⟩ := hmixed.2.2.1 (by decide) hno
  obtain rfl : problems = [.notRule 1 "Rule" "NoneType", .rule 2 "A" (.duplicateId "A"),
      .rule 2 "A" (.severity (.unknown "urgent"))] := by
    have hwalk : load mixedEntries = .error (.invalid [.notRule 1 "Rule" "NoneType",
      .rule 2 "A" (.duplicateId "A"), .rule 2 "A" (.severity (.unknown "urgent"))]) := rfl
    exact LoadFailure.invalid.inj (Except.error.inj (hproblems.symm.trans hwalk))
  have hload : load [entryFor "A" " LOW", entryFor "B" "info"] =
    .ok ⟨[entryFor "A" " LOW", entryFor "B" "info"].filterMap Entry.rule?⟩ := rfl
  obtain ⟨⟨rules, -, hshows⟩, hagain⟩ := hgood.2.1 _ hload
  exact ⟨⟨_, hproblems, by decide +kernel⟩, _, hload, hagain, hshows.rules ▸ hshows⟩

/-- A rule whose id is a whole number of 4301 digits. -/
def entryWithLongId : Entry :=
  .draft ⟨.int (Int.ofNat (tenTo Number.digitLimit)), .null, .raw (.str "low"),
    .literal 0 (.str "x"), .list [], .null⟩

/-- A registry keeps a tuple of exclusions as a list, and no report is made of an id that is too
long to be told. -/
theorem not_equal_tupleOfExclusions :
    (∃ registry, load [entryFor "A" "low"] = .ok registry ∧
      registry.marked.entries ≠ [.draft ⟨.str "A", .null, .level .low, .literal 0 (.str "x"),
        .tuple [.literal 0 (.str "/")], .null⟩]) ∧
    load [entryWithLongId] = .error .longId := by
  have hload : load [entryFor "A" "low"] =
    .ok ⟨[entryFor "A" "low"].filterMap Entry.rule?⟩ := rfl
  refine ⟨⟨_, hload, fun h => ?_⟩, ?_⟩
  · have hdraft := Entry.draft.inj (List.cons.inj h).1
    have hexclusions := congrArg Draft.exclusions hdraft
    exact nomatch hexclusions
  · have hlong : entryWithLongId.hasWritableId = false := Value.isWritable_of_le le_rfl
    unfold load
    simp [hlong]

end Registry

end LineAudit
