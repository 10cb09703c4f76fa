import LineAudit.Proofs.Pack.Form
import LineAudit.Proofs.Registry
import LineAudit.Proofs.Value.Order

/-!
Which rule packs are accepted, and what registries they give.

Main result: a pack is accepted exactly when it is well formed and the ids and descriptions of its
rules can be written, and its registry has one rule for each rule of the pack, in order.
-/

namespace LineAudit

namespace Pack

/-- A rule of a pack in which nothing is wrong by itself. -/
structure WellFormedRule (entries : List (Value × Value)) : Prop extends Shaped entries where
  id : Text.isAllBlank (idText entries) = false
  severity : ∃ s, Severity.ofValue (Value.fieldD "severity" entries) = .ok s

/-- A pack holds some rules, all of which are mappings. -/
def Holds (v : Value) (rules : List (List (Value × Value))) : Prop :=
  ∃ entries, v = .dict entries ∧ listAt? "rules" entries = some (rules.map .dict)

/-- A value is a pack of rules in which nothing is wrong, with distinct ids. -/
def WellFormed (v : Value) : Prop :=
  ∃ rules, Holds v rules ∧ (∀ r ∈ rules, WellFormedRule r) ∧ (rules.map idText).Nodup

/-- The ids and descriptions of all rules of a pack can be written. -/
def AllWritable (v : Value) : Prop := ∀ rules, Holds v rules → ∀ r ∈ rules, Writable r

/-- A rule has the parts that a rule of a pack says. -/
structure Stands (entries : List (Value × Value)) (r : Rule Severity) : Prop where
  id : r.id = idText entries
  description : r.description = .str (Value.fieldD "description" entries).text
  severity : Severity.ofValue (Value.fieldD "severity" entries) = .ok r.severity
  matcher : Spec.Mirrors (Value.fieldD "pattern" entries) r.matcher
  exclusions : ∃ specs, listAt? "exclude" entries = some specs ∧
    List.Forall₂ Spec.Mirrors specs r.exclusions
  recommendation : r.recommendation = Value.fieldD "recommendation" entries

/-- A rule is the checked one of the draft of a rule of a pack. -/
def Gives (entries : List (Value × Value)) (r : Rule Severity) : Prop :=
  ∃ d, draft entries = .ok d ∧ d.Makes r

variable {entries : List (Value × Value)}

/-! ### One rule -/

lemma Drafts.stands {d : Draft} {r : Rule Severity} (h : Drafts entries d) (hr : d.Makes r) :
    Stands entries r := by
  obtain ⟨specs, matchers, hspecs, hlist, hmirrors, -⟩ := h.exclusions
  have hid := hr.id
  have hsev := hr.severity
  rw [h.id] at hid
  rw [h.severity] at hsev
  exact ⟨(Value.str.inj hid).symm, hr.description.trans h.description, hsev,
    hr.matcher ▸ h.matcher, ⟨specs, hspecs, hr.exclusions_eq hlist ▸ hmirrors⟩,
    hr.recommendation.trans h.recommendation⟩

lemma Drafts.usable_of_makes {d : Draft} {r : Rule Severity} (h : Drafts entries d)
    (hr : d.Makes r) : ∀ m ∈ r.matcher :: r.exclusions, m.Usable := by
  obtain ⟨-, matchers, -, hlist, -, husable⟩ := h.exclusions
  exact List.forall_mem_cons.mpr ⟨hr.matcher ▸ h.usable, hr.exclusions_eq hlist ▸ husable⟩

lemma Drafts.exists_makes {d : Draft} (h : Drafts entries d) (hrule : WellFormedRule entries) :
    ∃ r, d.Makes r := by
  obtain ⟨specs, matchers, -, hlist, -, husable⟩ := h.exclusions
  obtain ⟨s, hs⟩ := hrule.severity
  exact ⟨⟨idText entries, d.description, s, d.matcher, matchers, d.recommendation⟩,
    h.id, hrule.id, rfl, h.severity ▸ hs, rfl, h.usable.complaints_eq, .inl hlist,
    fun x hx => (husable x hx).complaints_eq, rfl⟩

lemma gives_of_wellFormed (h : WellFormedRule entries) (hw : Writable entries) :
    ∃ r, Gives entries r := by
  obtain ⟨d, hd, hdrafts⟩ := h.draft_of_writable hw
  obtain ⟨r, hr⟩ := hdrafts.exists_makes h
  exact ⟨r, d, hd, hr⟩

lemma Shaped.of_gives {r : Rule Severity} (h : Shaped entries) (hr : Gives entries r) :
    WellFormedRule entries ∧ Writable entries ∧ Stands entries r ∧
      ∀ m ∈ r.matcher :: r.exclusions, m.Usable := by
  obtain ⟨d, hd, hmakes⟩ := hr
  have hw := writable_of_draft hd
  obtain ⟨d', hd', hdrafts⟩ := h.draft_of_writable hw
  obtain rfl := Except.ok.inj (hd.symm.trans hd')
  have hstands := hdrafts.stands hmakes
  exact ⟨⟨h, hstands.id ▸ hmakes.notBlank, r.severity, hstands.severity⟩, hw, hstands,
    hdrafts.usable_of_makes hmakes⟩

/-! ### All rules -/

lemma ofRules_eq_ok_iff_load {items : List Value} {registry : Registry Severity} :
    ofRules items = .ok registry ↔ entryProblems 0 items = .ok [] ∧
      ∃ drafts, items.mapM entry = .ok drafts ∧ Registry.load drafts = .ok registry := by
  rw [ofRules, bind_eq_ok_iff]
  constructor
  · rintro ⟨problems, hproblems, h⟩
    split at h
    next =>
      obtain ⟨drafts, hdrafts, hload⟩ := bind_eq_ok_iff.mp h
      split at hload
      next registry' hregistry =>
        exact ⟨hproblems, drafts, hdrafts, pure_eq_ok_iff.mp hload ▸ hregistry⟩
      next => simp [throw, throwThe, MonadExceptOf.throw] at hload
      next => simp [throw, throwThe, MonadExceptOf.throw] at hload
    next => simp [throw, throwThe, MonadExceptOf.throw] at h
  · rintro ⟨hproblems, drafts, hdrafts, hload⟩
    exact ⟨[], hproblems, bind_eq_ok_iff.mpr ⟨drafts, hdrafts, by simp [hload, pure, Except.pure]⟩⟩

lemma entry_makes_iff {r : Rule Severity} :
    (∃ e, entry (.dict entries) = .ok e ∧ e.Makes r) ↔ Gives entries r := by
  constructor
  · rintro ⟨e, he, hr⟩
    obtain ⟨d, hd, rfl⟩ := map_eq_ok_iff.mp he
    exact ⟨d, hd, hr⟩
  · rintro ⟨d, hd, hr⟩
    exact ⟨.draft d, map_eq_ok_iff.mpr ⟨d, hd, rfl⟩, hr⟩

/-- Rules of a pack give a registry when each has the right form and gives a rule of it. -/
lemma ofRules_eq_ok_iff {items : List Value} {registry : Registry Severity} :
    ofRules items = .ok registry ↔ ∃ rules : List (List (Value × Value)),
      items = rules.map .dict ∧ (∀ r ∈ rules, Shaped r ∧ (Value.fieldD "id" r).isWritable) ∧
        List.Forall₂ Gives rules registry.rules ∧ registry.ids.Nodup := by
  rw [ofRules_eq_ok_iff_load, entryProblems_eq_nil_iff]
  have hload (rules : List (List (Value × Value))) :
      (∃ drafts, (rules.map Value.dict).mapM entry = .ok drafts ∧
        Registry.load drafts = .ok registry) ↔
      List.Forall₂ Gives rules registry.rules ∧ registry.ids.Nodup := by
    simp only [mapM_eq_ok_iff, Registry.load_eq_ok_iff, ← and_assoc, exists_and_right]
    rw [forall₂_comp_iff, List.forall₂_map_left_iff]
    simp only [entry_makes_iff]
  constructor
  · rintro ⟨⟨rules, rfl, hrules⟩, h⟩
    exact ⟨rules, rfl, hrules, (hload rules).mp h⟩
  · rintro ⟨rules, rfl, hrules, h⟩
    exact ⟨⟨rules, rfl, hrules⟩, (hload rules).mpr h⟩

/-! ### Packs -/

lemma Holds.unique {v : Value} {rules rules' : List (List (Value × Value))} (h : Holds v rules)
    (h' : Holds v rules') : rules = rules' := by
  obtain ⟨entries, rfl, hlist⟩ := h
  obtain ⟨entries', hv, hlist'⟩ := h'
  obtain rfl := Value.dict.inj hv
  have hmap := Option.some.inj (hlist.symm.trans hlist')
  exact (List.map_injective_iff.mpr fun a b hab => Value.dict.inj hab) hmap

lemma ofValue_eq_ok_iff {v : Value} {registry : Registry Severity} :
    ofValue v = .ok registry ↔ ∃ rules, Holds v rules ∧
      (∀ r ∈ rules, Shaped r ∧ (Value.fieldD "id" r).isWritable) ∧
        List.Forall₂ Gives rules registry.rules ∧ registry.ids.Nodup := by
  have hdict (entries : List (Value × Value)) : ofValue (.dict entries) = .ok registry ↔
      ∃ items, listAt? "rules" entries = some items ∧ ofRules items = .ok registry := by
    simp only [listAt?_eq_some_iff]
    rw [ofValue]
    split
    next h => simp [h]
    next items h => simp [h]
    next v hlist h =>
      simpa [h] using fun items hitems => (hlist items hitems).elim
  constructor
  · intro h
    match v, h with
    | .dict entries, h =>
      obtain ⟨items, hitems, hof⟩ := (hdict entries).mp h
      obtain ⟨rules, rfl, hrules⟩ := ofRules_eq_ok_iff.mp hof
      exact ⟨rules, ⟨entries, rfl, hitems⟩, hrules⟩
  · rintro ⟨rules, ⟨entries, rfl, hitems⟩, hrules⟩
    exact (hdict entries).mpr ⟨_, hitems, ofRules_eq_ok_iff.mpr ⟨rules, rfl, hrules⟩⟩

lemma ids_eq {rules : List (List (Value × Value))} {checked : List (Rule Severity)}
    (h : List.Forall₂ Stands rules checked) : rules.map idText = checked.map Rule.id := by
  rw [← List.forall₂_eq_eq_eq, List.forall₂_map_left_iff, List.forall₂_map_right_iff]
  exact h.imp fun e r her => her.id.symm

/-- The rules of an accepted pack are well formed and stand for those of the registry, which are
usable. -/
lemma rules_of_accepted {v : Value} {registry : Registry Severity} (h : ofValue v = .ok registry) :
    ∃ rules, Holds v rules ∧ List.Forall₂ (fun e r => WellFormedRule e ∧ Writable e ∧ Stands e r ∧
      ∀ m ∈ r.matcher :: r.exclusions, m.Usable) rules registry.rules ∧
        (rules.map idText).Nodup := by
  obtain ⟨rules, hholds, hshaped, hgives, hnd⟩ := ofValue_eq_ok_iff.mp h
  have hall := ((List.forall₂_and_left _ _).mpr ⟨hshaped, hgives⟩).imp
    fun e r (her : (Shaped e ∧ _) ∧ Gives e r) => her.1.1.of_gives her.2
  exact ⟨rules, hholds, hall, ids_eq (hall.imp fun e r her => her.2.2.1) ▸ hnd⟩

lemma accepts_of_wellFormed {v : Value} (h : WellFormed v) (hw : AllWritable v) :
    ∃ registry, ofValue v = .ok registry := by
  obtain ⟨rules, hholds, hrules, hnd⟩ := h
  obtain ⟨checked, hgives⟩ := exists_forall₂ fun e he =>
    gives_of_wellFormed (hrules e he) (hw rules hholds e he)
  refine ⟨⟨checked⟩, ofValue_eq_ok_iff.mpr ⟨rules, hholds, fun e he => ?_, hgives, ?_⟩⟩
  · exact ⟨(hrules e he).toShaped, (hw rules hholds e he).1⟩
  · have hall := ((List.forall₂_and_left _ _).mpr ⟨hrules, hgives⟩).imp
      fun e r (her : WellFormedRule e ∧ Gives e r) => (her.1.toShaped.of_gives her.2).2.2.1
    rw [Registry.ids, ← ids_eq hall]
    exact hnd

/-- **A rule pack is accepted exactly when it is well formed and can be written**, and no rule of it
is lost: the registry has one rule for each, in order, with the parts that it says. -/
theorem ofText_accepts {text : String} {v : Value} (h : Yaml.read text = .ok v) :
    ((∃ registry, ofText text = .ok registry) ↔ WellFormed v ∧ AllWritable v) ∧
      ∀ registry, ofText text = .ok registry →
        ∃ rules, Holds v rules ∧ List.Forall₂ Stands rules registry.rules := by
  unfold ofText
  rw [h]
  refine ⟨⟨fun ⟨registry, hof⟩ => ?_, fun ⟨hwell, hw⟩ => accepts_of_wellFormed hwell hw⟩,
    fun registry hof => ?_⟩
  · obtain ⟨rules, hholds, hall, hnd⟩ := rules_of_accepted hof
    have hrules := forall_left_of_forall₂ hall fun e r her => And.intro her.1 her.2.1
    refine ⟨⟨rules, hholds, fun e he => (hrules e he).1, hnd⟩, fun rules' hholds' e he => ?_⟩
    obtain rfl := hholds.unique hholds'
    exact (hrules e he).2
  · obtain ⟨rules, hholds, hall, -⟩ := rules_of_accepted hof
    exact ⟨rules, hholds, hall.imp fun e r her => her.2.2.1⟩

/-- A pack with one rule, which looks for a text or a regular expression and has an exclusion. -/
def smallPack : String :=
  "\x7b\"rules\":[\x7b\"id\":\"A\",\"description\":\"\"," ++
    "\"severity\":\"low\",\"pattern\":\x7b\"any\":[\"x\",\x7b\"regex\":\"y+\"\x7d]\x7d," ++
    "\"exclude\":[\"z\"]\x7d]\x7d"

lemma read_of_ofText {text : String} {registry : Registry Severity}
    (h : ofText text = .ok registry) : ∃ v, Yaml.read text = .ok v ∧ ofValue v = .ok registry := by
  unfold ofText at h
  split at h
  next v hv => exact ⟨v, hv, h⟩
  next => simp at h
  next => simp at h
  next => simp at h

lemma smallPack_accepted : ∃ registry, ofText smallPack = .ok registry ∧ registry.ids = ["A"] :=
  exists_ok_of_toOption (by decide +kernel)

theorem ofText_accepts_smallPack : ∃ v registry, Yaml.read smallPack = .ok v ∧
    ofText smallPack = .ok registry ∧ registry.ids = ["A"] ∧ WellFormed v ∧ AllWritable v ∧
      ∃ rules, Holds v rules ∧ List.Forall₂ Stands rules registry.rules := by
  obtain ⟨registry, hof, hids⟩ := smallPack_accepted
  obtain ⟨v, hv, -⟩ := read_of_ofText hof
  have hall := ofText_accepts hv
  obtain ⟨hwell, hw⟩ := hall.1.mp ⟨registry, hof⟩
  exact ⟨v, registry, hv, hof, hids, hwell, hw, hall.2 registry hof⟩

/-- A rule the description of which is a whole number with one digit too many to be written. -/
def longRule : List (Value × Value) :=
  [(.str "id", .str "A"), (.str "description", .int (Int.ofNat (tenTo Number.digitLimit))),
    (.str "severity", .str "low"), (.str "pattern", .str "x")]

/-- A pack that is well formed and is not accepted. -/
theorem not_accepts_longRule :
    WellFormed (.dict [(.str "rules", .list [.dict longRule])]) ∧
      ∀ registry, ofValue (.dict [(.str "rules", .list [.dict longRule])]) ≠ .ok registry := by
  have hholds : Holds (.dict [(.str "rules", .list [.dict longRule])]) [longRule] :=
    ⟨_, rfl, rfl⟩
  constructor
  · refine ⟨[longRule], hholds, fun r hr => ?_, List.nodup_singleton _⟩
    obtain rfl := List.mem_singleton.mp hr
    exact ⟨⟨by decide, .text (by decide), [], rfl, by simp⟩, by decide, .low, by decide⟩
  · intro registry h
    obtain ⟨rules, hrules, hall, -⟩ := rules_of_accepted h
    obtain rfl := hholds.unique hrules
    have hw := forall_left_of_forall₂ hall fun e r her => her.2.1
    have hlong := (hw longRule (by simp)).2
    have hfield : Value.fieldD "description" longRule =
        .int (Int.ofNat (tenTo Number.digitLimit)) := by rfl
    rw [hfield, Value.isWritable_of_le (Nat.le_refl _)] at hlong
    exact Bool.false_ne_true hlong

end Pack

end LineAudit
