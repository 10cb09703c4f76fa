import LineAudit.Proofs.Matcher.Breaks
import LineAudit.Proofs.Pack.Accept

/-!
Rule packs on which reading breaks off.

A pack gives a registry or a failure that has words, except where reading breaks off: at bytes that
are no text, at a scalar without the form of the type that it claims, at a specification on which
the check breaks off, and at an id or a description that cannot be written. Main result: these are
all the exceptions, as far as no node of the pack holds itself.
-/

namespace LineAudit

namespace PackFailure

/-- Nothing is said of this failure, which is no judgement on a pack. -/
def Mute : PackFailure → Prop
  | unreadable _ | notText | mishap _ | selfAlias | spec _ | longNumber => True
  | notFound | notYaml _ | notMapping | rulesNotList | badEntries _ => False

lemma exists_message?_iff (path : String) (f : PackFailure) :
    (∃ message, f.message? path = some message) ↔ ¬ f.Mute := by
  cases f <;> simp [message?, Mute]

end PackFailure

namespace Pack

/-- A rule with an id that cannot be written, or with a specification on which the check breaks
off. -/
inductive RuleBreaks (entries : List (Value × Value)) : Prop
  | id {v : Value} (hv : Value.field? "id" entries = some v) (h : v.isWritable = false) :
    RuleBreaks entries
  | pattern {spec : Value} (hs : Value.field? "pattern" entries = some spec)
      (h : Spec.Breaks spec) : RuleBreaks entries
  | exclude {specs : List Value} {spec : Value}
      (hs : Value.field? "exclude" entries = some (.list specs)) (hmem : spec ∈ specs)
      (h : Spec.Breaks spec) : RuleBreaks entries

/-- A list of rules with a rule on which the check breaks off, or one in which all rules have the
right form and a description cannot be written. -/
inductive RulesBreak (items : List Value) : Prop
  | rule {entries : List (Value × Value)} (hmem : .dict entries ∈ items)
      (h : RuleBreaks entries) : RulesBreak items
  | description {rules : List (List (Value × Value))} {r : List (Value × Value)}
      (hitems : items = rules.map .dict) (hshaped : ∀ r ∈ rules, Shaped r) (hmem : r ∈ rules)
      (h : (Value.fieldD "description" r).isWritable = false) : RulesBreak items

/-- The bytes of a pack on which reading breaks off. -/
inductive BreaksOff (bytes : ByteArray) : Prop
  | notText (h : Text.decode? bytes = none) : BreaksOff bytes
  | mishap {text : String} {m : Yaml.Mishap} (htext : Text.decode? bytes = some text)
      (h : Yaml.read text = .error (.mishap m)) : BreaksOff bytes
  | rules {text : String} {entries : List (Value × Value)} {items : List Value}
      (htext : Text.decode? bytes = some text) (hread : Yaml.read text = .ok (.dict entries))
      (hitems : Value.field? "rules" entries = some (.list items)) (h : RulesBreak items) :
      BreaksOff bytes

/-- The bytes of a pack in which an alias stands inside of the very node that it names. -/
def Entangled (bytes : ByteArray) : Prop :=
  ∃ text, Text.decode? bytes = some text ∧ Yaml.read text = .error .selfAlias

lemma Entangled.ofBytes_eq {bytes : ByteArray} (h : Entangled bytes) :
    ofBytes bytes = .error .selfAlias := by
  obtain ⟨text, htext, hread⟩ := h
  simp only [ofBytes, ofText, htext, hread]

/-! ### Failures without words -/

section Mute

variable {α β : Type}

/-- If a step fails, then without words. -/
def FailsMutely (x : Except PackFailure α) : Prop := ∀ f, x = .error f → f.Mute

lemma failsMutely_ok (a : α) : FailsMutely (.ok a) := by
  intro f h
  cases h

lemma failsMutely_error {f : PackFailure} (hf : f.Mute) :
    FailsMutely (.error f : Except PackFailure α) := by
  rintro f' ⟨⟩
  exact hf

lemma failsMutely_pure (a : α) : FailsMutely (pure a) := failsMutely_ok a

lemma FailsMutely.bind {x : Except PackFailure α} {g : α → Except PackFailure β}
    (hx : FailsMutely x) (hg : ∀ a, FailsMutely (g a)) : FailsMutely (x >>= g) := by
  intro f h
  cases hxa : x with
  | error f' =>
    rw [hxa] at h
    obtain rfl := Except.error.inj h
    exact hx _ hxa
  | ok a =>
    rw [hxa] at h
    exact hg a f h

lemma FailsMutely.mapM {g : α → Except PackFailure β} (h : ∀ a, FailsMutely (g a)) (as : List α) :
    FailsMutely (as.mapM g) := by
  induction as with
  | nil => exact failsMutely_pure _
  | cons a rest ih =>
    rw [List.mapM_cons]
    exact (h a).bind fun b => ih.bind fun bs => failsMutely_pure _

lemma failsMutely_written (v : Value) : FailsMutely (written v) := by
  unfold written
  split
  next => exact failsMutely_ok _
  next => exact failsMutely_error trivial

lemma failsMutely_checkSpec (spec : Value) : FailsMutely (checkSpec spec) := by
  unfold checkSpec
  split
  next => exact failsMutely_ok _
  next => exact failsMutely_error trivial

lemma failsMutely_excludeListProblems (index : ℕ) (specs : List Value) :
    FailsMutely (excludeListProblems index specs) := by
  induction specs generalizing index with
  | nil => exact failsMutely_pure _
  | cons spec rest ih =>
    exact (failsMutely_checkSpec spec).bind fun here =>
      (ih (index + 1)).bind fun later => failsMutely_pure _

lemma failsMutely_formProblems (entries : List (Value × Value)) :
    FailsMutely (formProblems entries) := by
  have hpattern : FailsMutely (patternProblems entries) := by
    unfold patternProblems
    split
    next => exact (failsMutely_checkSpec _).bind fun _ => failsMutely_pure _
    next => exact failsMutely_pure _
  have hexclude : FailsMutely (excludeProblems entries) := by
    unfold excludeProblems
    split
    next => exact failsMutely_pure _
    next => exact failsMutely_excludeListProblems 0 _
    next => exact failsMutely_pure _
  exact hpattern.bind fun _ => hexclude.bind fun _ => failsMutely_pure _

lemma failsMutely_entryProblems (index : ℕ) (items : List Value) :
    FailsMutely (entryProblems index items) := by
  induction items generalizing index with
  | nil => exact failsMutely_pure _
  | cons v rest ih =>
    cases v with
    | dict entries =>
      exact (failsMutely_written _).bind fun name =>
        (failsMutely_formProblems entries).bind fun here =>
          (ih (index + 1)).bind fun later => failsMutely_pure _
    | _ => exact (ih (index + 1)).bind fun later => failsMutely_pure _

lemma failsMutely_buildMatcher (spec : Value) : FailsMutely (buildMatcher spec) := by
  unfold buildMatcher
  split
  next => exact failsMutely_ok _
  next => exact failsMutely_error trivial

lemma failsMutely_entry (v : Value) : FailsMutely (entry v) := by
  have hexclusions (entries : List (Value × Value)) : FailsMutely (buildExclusions entries) := by
    unfold buildExclusions
    split
    next => exact FailsMutely.mapM failsMutely_buildMatcher _
    next => exact failsMutely_pure _
  cases v with
  | dict entries =>
    have hdraft : FailsMutely (draft entries) :=
      (failsMutely_written _).bind fun id => (failsMutely_written _).bind fun description =>
        (failsMutely_buildMatcher _).bind fun m => (hexclusions entries).bind fun ms =>
          failsMutely_pure _
    exact hdraft.bind fun _ => failsMutely_pure _
  | _ => exact failsMutely_pure _

end Mute

/-! ### The check of the form -/

lemma written_fails_iff (v : Value) : (∃ f, written v = .error f) ↔ v.isWritable = false := by
  unfold written
  split
  next h => simp [h]
  next h => simpa using h

lemma checkSpec_fails_iff (spec : Value) :
    (∃ f, checkSpec spec = .error f) ↔ Spec.Breaks spec := by
  rw [← Spec.complaints_fails_iff]
  unfold checkSpec
  split
  next h => simp [h]
  next h => simp [h]

lemma label_fails_iff (entries : List (Value × Value)) : (∃ f, label entries = .error f) ↔
    ∃ v, Value.field? "id" entries = some v ∧ v.isWritable = false := by
  rw [label, written_fails_iff]
  cases Value.field? "id" entries <;> simp [Value.isWritable]

lemma patternProblems_fails_iff (entries : List (Value × Value)) :
    (∃ f, patternProblems entries = .error f) ↔
      ∃ spec, Value.field? "pattern" entries = some spec ∧ Spec.Breaks spec := by
  unfold patternProblems
  split
  next spec hspec =>
    simp only [hspec, Option.some.injEq, exists_eq_left', ← checkSpec_fails_iff]
    cases checkSpec spec <;> simp [bind, Except.bind, pure, Except.pure]
  next hspec => simp [hspec, pure, Except.pure]

lemma excludeListProblems_fails_iff (index : ℕ) (specs : List Value) :
    (∃ f, excludeListProblems index specs = .error f) ↔ ∃ spec ∈ specs, Spec.Breaks spec := by
  induction specs generalizing index with
  | nil => simp [excludeListProblems, pure, Except.pure]
  | cons spec rest ih =>
    rw [excludeListProblems, exists_error_join_iff, ih (index + 1), checkSpec_fails_iff]
    simp

lemma excludeProblems_fails_iff (entries : List (Value × Value)) :
    (∃ f, excludeProblems entries = .error f) ↔
      ∃ specs, Value.field? "exclude" entries = some (.list specs) ∧
        ∃ spec ∈ specs, Spec.Breaks spec := by
  unfold excludeProblems
  split
  next h => simp [h, pure, Except.pure]
  next specs h => simp [h, excludeListProblems_fails_iff]
  next v hlist h => simpa [h, pure, Except.pure] using fun specs hs => (hlist specs hs).elim

lemma ruleBreaks_iff (entries : List (Value × Value)) : RuleBreaks entries ↔
    (∃ f, label entries = .error f) ∨ ∃ f, formProblems entries = .error f := by
  rw [formProblems, exists_error_join_iff, label_fails_iff, patternProblems_fails_iff,
    excludeProblems_fails_iff]
  constructor
  · rintro (⟨hv, h⟩ | ⟨hs, h⟩ | ⟨hs, hmem, h⟩)
    · exact .inl ⟨_, hv, h⟩
    · exact .inr (.inl ⟨_, hs, h⟩)
    · exact .inr (.inr ⟨_, hs, _, hmem, h⟩)
  · rintro (⟨_, hv, h⟩ | ⟨_, hs, h⟩ | ⟨_, hs, _, hmem, h⟩)
    · exact .id hv h
    · exact .pattern hs h
    · exact .exclude hs hmem h

lemma entryProblems_fails_iff (index : ℕ) (items : List Value) :
    (∃ f, entryProblems index items = .error f) ↔
      ∃ entries, .dict entries ∈ items ∧ RuleBreaks entries := by
  induction items generalizing index with
  | nil => simp [entryProblems, pure, Except.pure]
  | cons v rest ih =>
    cases v with
    | dict entries =>
      have hsplit : (∃ es, .dict es ∈ Value.dict entries :: rest ∧ RuleBreaks es) ↔
          RuleBreaks entries ∨ ∃ es, .dict es ∈ rest ∧ RuleBreaks es := by
        simp [or_and_right, exists_or]
      rw [hsplit, ruleBreaks_iff, ← ih (index + 1), entryProblems]
      cases label entries <;> cases formProblems entries <;>
        cases entryProblems (index + 1) rest <;> simp [bind, Except.bind, pure, Except.pure]
    | _ =>
      simp only [List.mem_cons, reduceCtorEq, false_or, ← ih (index + 1), entryProblems]
      cases entryProblems (index + 1) rest <;> simp [bind, Except.bind, pure, Except.pure]

/-! ### Rules and packs -/

/-- A step fails without words. -/
def Breaks {α : Type} (x : Except PackFailure α) : Prop := ∃ f, x = .error f ∧ f.Mute

lemma entry_fails_iff {entries : List (Value × Value)} (h : Shaped entries) :
    (∃ f, entry (.dict entries) = .error f) ↔ ¬ Writable entries := by
  have hentry : (∃ f, entry (.dict entries) = .error f) ↔ ∃ f, draft entries = .error f := by
    rw [entry]
    cases draft entries <;> simp [bind, Except.bind, pure, Except.pure]
  rw [hentry]
  constructor
  · rintro ⟨f, hf⟩ hw
    obtain ⟨d, hd, -⟩ := h.draft_of_writable hw
    cases hf.symm.trans hd
  · intro hw
    cases hd : draft entries with
    | error f => exact ⟨f, rfl⟩
    | ok d => exact absurd (writable_of_draft hd) hw

/-- The ids in a pack are texts when rules are made. -/
lemma load_ne_longId {items : List Value} {entries : List Entry}
    (h : items.mapM entry = .ok entries) : Registry.load entries ≠ .error .longId := by
  have hids : ∀ e ∈ entries, e.hasWritableId = true := by
    refine forall_right_of_forall₂ (mapM_eq_ok_iff.mp h) fun v e he => ?_
    cases v with
    | dict fields =>
      obtain ⟨d, hd, rfl⟩ := map_eq_ok_iff.mp he
      simp only [draft, bind_eq_ok_iff, pure_eq_ok_iff] at hd
      obtain ⟨id, -, description, -, matcher, -, exclusions, -, rfl⟩ := hd
      simp [Entry.hasWritableId, Value.isWritable]
    | _ =>
      obtain rfl := pure_eq_ok_iff.mp he
      rfl
  unfold Registry.load
  rw [if_pos (List.all_eq_true.mpr hids)]
  split <;> simp

/-- When rules have passed the check of their form, reading breaks off exactly at one that makes no
draft. -/
lemma breaks_ofRules_iff (items : List Value) :
    Breaks (ofRules items) ↔ (∃ f, entryProblems 0 items = .error f) ∨
      entryProblems 0 items = .ok [] ∧ ∃ f, items.mapM entry = .error f := by
  rw [ofRules]
  cases hproblems : entryProblems 0 items with
  | error f =>
    have hmute := failsMutely_entryProblems 0 items f hproblems
    simpa [Breaks, bind, Except.bind] using hmute
  | ok problems =>
    cases problems with
    | cons problem rest =>
      simp [Breaks, bind, Except.bind, throw, throwThe, MonadExceptOf.throw, PackFailure.Mute]
    | nil =>
      have hmute := FailsMutely.mapM failsMutely_entry items
      cases hentries : items.mapM entry with
      | error f => simpa [Breaks, bind, Except.bind, hentries] using hmute f hentries
      | ok entries =>
        have hids := load_ne_longId hentries
        rcases hload : Registry.load entries with (problems | _) | registry
        · simp [Breaks, bind, Except.bind, hload, throw, throwThe, MonadExceptOf.throw,
            PackFailure.Mute]
        · exact absurd hload hids
        · simp [Breaks, bind, Except.bind, hload, pure, Except.pure]

lemma rulesBreak_iff (items : List Value) : Breaks (ofRules items) ↔ RulesBreak items := by
  rw [breaks_ofRules_iff, entryProblems_fails_iff, entryProblems_eq_nil_iff, exists_mapM_error_iff]
  constructor
  · rintro (⟨entries, hmem, h⟩ | ⟨⟨rules, rfl, hrules⟩, v, hv, hfails⟩)
    · exact .rule hmem h
    · obtain ⟨r, hr, rfl⟩ := List.mem_map.mp hv
      have hno := (entry_fails_iff (hrules r hr).1).mp hfails
      have hdescription : (Value.fieldD "description" r).isWritable = false := by
        simpa [Writable, (hrules r hr).2] using hno
      exact .description rfl (fun r hr => (hrules r hr).1) hr hdescription
  · rintro (⟨hmem, h⟩ | @⟨rules, r, rfl, hshaped, hmem, h⟩)
    · exact .inl ⟨_, hmem, h⟩
    · by_cases hids : ∀ r ∈ rules, (Value.fieldD "id" r).isWritable
      · refine .inr ⟨⟨rules, rfl, fun r hr => ⟨hshaped r hr, hids r hr⟩⟩, _,
          List.mem_map_of_mem hmem, (entry_fails_iff (hshaped r hmem)).mpr fun hw => ?_⟩
        exact Bool.false_ne_true (h.symm.trans hw.2)
      · simp only [not_forall] at hids
        obtain ⟨r', hr', hid⟩ := hids
        obtain ⟨v, hv⟩ := Option.isSome_iff_exists.mp ((hshaped r' hr').hasKeys "id" (by decide))
        rw [Value.fieldD, hv, Option.getD_some, Bool.not_eq_true] at hid
        exact .inl ⟨r', List.mem_map_of_mem hr', .id hv hid⟩

lemma breaks_ofValue_iff (v : Value) : Breaks (ofValue v) ↔ ∃ entries items,
    v = .dict entries ∧ Value.field? "rules" entries = some (.list items) ∧ RulesBreak items := by
  cases v with
  | dict entries =>
    have hnone : ¬ Breaks (ofRules []) := by
      rw [rulesBreak_iff]
      rintro (⟨hmem, -⟩ | ⟨hitems, -, hmem, -⟩)
      · simp at hmem
      · rw [List.map_eq_nil_iff.mp hitems.symm] at hmem
        simp at hmem
    rw [ofValue]
    split
    next h => simp [h, hnone]
    next items h => simp [h, rulesBreak_iff]
    next v hlist h =>
      simpa [h, Breaks, PackFailure.Mute] using fun items hitems => absurd hitems (hlist items)
  | _ => simp [ofValue, Breaks, PackFailure.Mute]

lemma breaks_ofBytes_iff {bytes : ByteArray} (htree : ¬ Entangled bytes) :
    Breaks (ofBytes bytes) ↔ BreaksOff bytes := by
  constructor
  · intro h
    unfold ofBytes at h
    split at h
    next text htext =>
      unfold ofText at h
      split at h
      next v hread =>
        obtain ⟨entries, items, rfl, hitems, h⟩ := (breaks_ofValue_iff v).mp h
        exact .rules htext hread hitems h
      next fault hread =>
        obtain ⟨f, hf, hmute⟩ := h
        obtain rfl := Except.error.inj hf
        exact hmute.elim
      next m hread => exact .mishap htext hread
      next hread => exact absurd ⟨text, htext, hread⟩ htree
    next htext => exact .notText htext
  · rintro (h | @⟨text, m, htext, h⟩ | ⟨htext, hread, hitems, h⟩)
    · exact ⟨.notText, by simp [ofBytes, h], trivial⟩
    · exact ⟨.mishap m, by simp [ofBytes, ofText, htext, h], trivial⟩
    · have hvalue := (breaks_ofValue_iff _).mpr ⟨_, _, rfl, hitems, h⟩
      simpa [ofBytes, ofText, htext, hread] using hvalue

/-- **Reading a pack breaks off exactly at these bytes.** From all others a registry is made, or
there are words for what is wrong with them. -/
lemma answers_iff {bytes : ByteArray} (htree : ¬ Entangled bytes) (path : String) :
    ((∃ registry, ofBytes bytes = .ok registry) ∨ ∃ f message, ofBytes bytes = .error f ∧
      f.message? path = some message) ↔ ¬ BreaksOff bytes := by
  rw [← breaks_ofBytes_iff htree]
  cases ofBytes bytes with
  | ok registry => simp [Breaks]
  | error f => simp [Breaks, PackFailure.exists_message?_iff]

end Pack

end LineAudit
