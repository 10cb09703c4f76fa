import LineAudit.Proofs.Rule.Heap
import LineAudit.Proofs.Scan.Abort
import LineAudit.Proofs.Scan.Independence

/-!
A registry and the rules it was loaded from, when these are edited later on.

The registry has copies of the rules, so that edits of fields do not reach it, and shares their
matchers, so that edits of matchers reach every rule that holds them. Main result: an edit of a
matcher changes only rules that held this very matcher when the registry was loaded, or have come to
hold it because it was appended to a matcher of theirs.
-/

namespace LineAudit

namespace Matcher

lemma marksOfEach_append (ms ns : List Matcher) :
    marksOfEach (ms ++ ns) = marksOfEach ms ++ marksOfEach ns := by
  induction ms with
  | nil => rfl
  | cons m rest ih => rw [List.cons_append, marksOfEach, marksOfEach, ih, List.append_assoc]

mutual

/-- An edit brings in no marks but those of the children that it adds. -/
lemma mem_marks_editAt {mark k : ℕ} {e : NodeEdit} :
    ∀ m : Matcher, k ∈ (m.editAt mark e).marks → k ∈ m.marks ∨ k ∈ marksOfEach e.newChildren
  | .literal _ _, h | .regex _ _, h | .alarmed _ _ _ _, h => .inl (by simpa [editAt, marks] using h)
  | .foreign _, h => .inl h
  | .any i children, h | .all i children, h => by
    rw [editAt, marks, marksOfEach_append, List.mem_cons, List.mem_append] at h
    rw [marks, List.mem_cons]
    rcases h with rfl | h | h
    · exact .inl (.inl rfl)
    · exact (mem_marksOfEach_editEachAt children h).imp_left .inr
    · split at h
      · exact .inr h
      · simp [marksOfEach] at h

lemma mem_marksOfEach_editEachAt {mark k : ℕ} {e : NodeEdit} :
    ∀ ms : List Matcher, k ∈ marksOfEach (editEachAt mark e ms) →
      k ∈ marksOfEach ms ∨ k ∈ marksOfEach e.newChildren
  | [], h => .inl h
  | m :: rest, h => by
    rw [editEachAt, marksOfEach, List.mem_append] at h
    rw [marksOfEach, List.mem_append]
    rcases h with h | h
    · exact (mem_marks_editAt m h).imp_left .inl
    · exact (mem_marksOfEach_editEachAt rest h).imp_left .inr

end

end Matcher

lemma Rule.mem_marks_editAt {σ : Type} {mark k : ℕ} {e : NodeEdit} {r : Rule σ}
    (h : k ∈ (r.editAt mark e).marks) : k ∈ r.marks ∨ k ∈ Matcher.marksOfEach e.newChildren := by
  rw [marks, List.mem_append] at h ⊢
  rcases h with h | h
  · exact (Matcher.mem_marks_editAt _ h).imp_left .inl
  · exact (Matcher.mem_marksOfEach_editEachAt _ h).imp_left .inr

namespace Rule

variable {σ : Type}

/-! ### Edits of matchers -/

/-- A rule after edits of matchers; edits of fields are left out. -/
def editedBy (edits : List ObjectEdit) (r : Rule σ) : Rule σ :=
  edits.foldl (fun r e => match e with
    | .field _ _ => r
    | .node mark e => r.editAt mark e) r

/-- A rule holds a matcher, or comes to hold it below one that is appended to a matcher which it
holds. -/
inductive ComesToHold (r : Rule σ) : List ObjectEdit → ℕ → Prop
  | held {edits : List ObjectEdit} {mark : ℕ} (h : mark ∈ r.marks) : ComesToHold r edits mark
  | appended {before after : List ObjectEdit} {m : Matcher} {parent mark : ℕ}
      (hparent : ComesToHold r before parent) (hmark : mark ∈ m.marks) :
      ComesToHold r (before ++ .node parent (.child m) :: after) mark

lemma editedBy_concat_node (edits : List ObjectEdit) (mark : ℕ) (e : NodeEdit) :
    (editedBy (edits ++ [.node mark e]) : Rule σ → Rule σ) = editAt mark e ∘ editedBy edits := by
  funext r
  rw [editedBy, List.foldl_append]
  rfl

lemma editedBy_concat_field (edits : List ObjectEdit) (address : ℕ) (e : FieldEdit) :
    (editedBy (edits ++ [.field address e]) : Rule σ → Rule σ) = editedBy edits := by
  funext r
  rw [editedBy, List.foldl_append]
  rfl

lemma editedBy_fields {edits : List ObjectEdit} (h : ∀ x ∈ edits, ∃ a e, x = .field a e)
    (r : Rule σ) : r.editedBy edits = r := by
  induction edits with
  | nil => rfl
  | cons x rest ih =>
    rw [List.forall_mem_cons] at h
    obtain ⟨⟨address, e, rfl⟩, hrest⟩ := h
    exact ih hrest

lemma id_editedBy (edits : List ObjectEdit) (r : Rule σ) : (r.editedBy edits).id = r.id := by
  induction edits generalizing r with
  | nil => rfl
  | cons e rest ih => cases e <;> exact ih _

lemma ComesToHold.concat {r : Rule σ} {edits : List ObjectEdit} {mark : ℕ}
    (h : r.ComesToHold edits mark) (e : ObjectEdit) : r.ComesToHold (edits ++ [e]) mark := by
  cases h with
  | held h => exact .held h
  | appended hparent hmark =>
    rw [List.append_assoc, List.cons_append]
    exact .appended hparent hmark

lemma ComesToHold.mem_or_appended {r : Rule σ} {edits : List ObjectEdit} {mark : ℕ}
    (h : r.ComesToHold edits mark) :
    mark ∈ r.marks ∨ ∃ parent m, .node parent (.child m) ∈ edits ∧ mark ∈ m.marks := by
  cases h with
  | held h => exact .inl h
  | appended _ hmark => exact .inr ⟨_, _, List.mem_append_right _ List.mem_cons_self, hmark⟩

/-- A rule has come to hold all matchers that stand in it after edits. -/
lemma comesToHold_of_mem {r : Rule σ} {edits : List ObjectEdit} {mark : ℕ}
    (h : mark ∈ (r.editedBy edits).marks) : r.ComesToHold edits mark := by
  induction edits using List.reverseRecOn generalizing mark with
  | nil => exact .held h
  | append_singleton edits e ih =>
    cases e with
    | field address e =>
      rw [editedBy_concat_field] at h
      exact (ih h).concat _
    | node parent e =>
      rw [editedBy_concat_node, Function.comp_apply] at h
      by_cases hparent : parent ∈ (r.editedBy edits).marks
      · rcases mem_marks_editAt h with hold | hnew
        · exact (ih hold).concat _
        · cases e with
          | child m =>
            have hmark : mark ∈ m.marks := by
              simpa [NodeEdit.newChildren, Matcher.marksOfEach] using hnew
            exact .appended (ih hparent) hmark
          | text v => simp [NodeEdit.newChildren, Matcher.marksOfEach] at hnew
      · rw [editAt_of_not_mem e _ hparent] at h
        exact (ih h).concat _

/-- A rule that has not come to hold a matcher keeps out of an edit of it. -/
lemma editedBy_concat_of_not_comesToHold {r : Rule σ} {edits : List ObjectEdit} {mark : ℕ}
    (e : NodeEdit) (h : ¬ r.ComesToHold edits mark) :
    r.editedBy (edits ++ [.node mark e]) = r.editedBy edits := by
  rw [editedBy_concat_node, Function.comp_apply]
  exact editAt_of_not_mem e _ fun hmem => h (comesToHold_of_mem hmem)

end Rule

/-! ### Scans -/

namespace Engine

variable {σ : Type}

/-- What is found for some rules does not depend on the others. -/
lemma found_about_congr {ids : List String} {rules rules' : List (Rule σ)}
    (h : rules'.filter (fun r => r.id ∈ ids) = rules.filter fun r => r.id ∈ ids)
    (files : List SourceFile) : (found rules' files).about ids = (found rules files).about ids := by
  rw [← found_filter, ← found_filter, h]

/-- Scans with other rules are given up for the same reasons, and find the same for the rules that
both have. -/
lemma scanIn_about_congr (e : Engine) {ids : List String} {rules rules' : List (Rule σ)}
    (h : rules'.filter (fun r => r.id ∈ ids) = rules.filter fun r => r.id ∈ ids)
    {files : List SourceFile} {order order' : List ℕ}
    (horder : order.Perm (List.range files.length))
    (horder' : order'.Perm (List.range files.length)) :
    (e.scanIn order' rules' files).map (fun result => result.about ids) =
      (e.scanIn order rules files).map fun result => result.about ids := by
  cases hscan : e.scanIn order rules files with
  | error abort =>
    have haborts := (scanIn_eq_error_iff e rules horder).mp hscan
    rw [(scanIn_eq_error_iff e rules' horder').mpr haborts]
  | ok result =>
    obtain ⟨hlimits, rfl⟩ := (e.scanIn_eq_ok_iff rules horder result).mp hscan
    rw [(e.scanIn_eq_ok_iff rules' horder' _).mpr ⟨hlimits, rfl⟩]
    exact congrArg Except.ok (found_about_congr h files)

end Engine

/-! ### The objects of a caller and those of a registry -/

namespace Heap

/-- What a caller holds has objects below an address, and what a registry keeps has objects from
this address on. -/
structure Apart (h : Heap) (bound : ℕ) (items : List Item) (kept : List Kept) : Prop where
  held : ∀ a, .rule a ∈ items → h.Within 0 bound a
  kept : ∀ k ∈ kept, h.Within bound h.next k.address

variable {h h' : Heap} {bound : ℕ} {items : List Item} {kept : List Kept}

lemma apart_of_load (hitems : ∀ item ∈ items, h.Has item)
    (hload : h.load items = .ok (kept, h')) : h'.Apart h.next items kept := by
  obtain ⟨registry, -, hgrows, hkept⟩ := run_load hload
  refine ⟨fun a ha => ?_, forall_right_of_forall₂ hkept fun r k hk => hk.own⟩
  obtain ⟨hle, hlt, hlist⟩ := hitems _ ha a rfl
  exact ⟨hle, hlt, fun l hl => hlist l (by rwa [← hgrows.rule_eq a hlt])⟩

lemma Apart.perform (happart : h.Apart bound items kept) (e : ObjectEdit) :
    (h.perform e).Apart bound items kept := by
  refine ⟨fun a ha => (happart.held a ha).perform e, fun k hk => ?_⟩
  rw [(h.perform_frame e).1]
  exact (happart.kept k hk).perform e

lemma Apart.after (happart : h.Apart bound items kept) (edits : List ObjectEdit) :
    (h.after edits).Apart bound items kept := by
  induction edits generalizing h with
  | nil => exact happart
  | cons e rest ih => exact ih (happart.perform e)

/-- An edit of a field of what the caller holds does not reach the registry. -/
lemma Apart.registry_perform_field (happart : h.Apart bound items kept) {a : ℕ}
    (ha : .rule a ∈ items) (e : FieldEdit) :
    (h.perform (.field a e)).registry kept = h.registry kept := by
  refine congrArg Registry.mk (List.map_congr_left fun k hk => ?_)
  exact read_perform_field (happart.held a ha) (happart.kept k hk) e

lemma registry_perform_node (h : Heap) (mark : ℕ) (e : NodeEdit) (kept : List Kept) :
    (h.perform (.node mark e)).registry kept =
      ⟨(h.registry kept).rules.map (Rule.editAt mark e)⟩ := by
  rw [registry, registry, List.map_map]
  exact congrArg Registry.mk (List.map_congr_left fun k _ => h.read_perform_node mark e k)

/-- After edits, the registry has its rules as the edits of matchers leave them. -/
lemma Apart.registry_after (happart : h.Apart bound items kept) {edits : List ObjectEdit}
    (hedits : ∀ a e, .field a e ∈ edits → .rule a ∈ items) :
    (h.after edits).registry kept = ⟨(h.registry kept).rules.map (Rule.editedBy edits)⟩ := by
  induction edits using List.reverseRecOn with
  | nil =>
    have hid : Rule.editedBy [] = (id : Rule SeverityMark → Rule SeverityMark) := rfl
    rw [hid, List.map_id]
    rfl
  | append_singleton edits e ih =>
    have hbefore := ih fun a e' hmem => hedits a e' (List.mem_append_left _ hmem)
    rw [after_concat]
    cases e with
    | field a e =>
      have ha : .rule a ∈ items := hedits a e (by simp)
      rw [(happart.after edits).registry_perform_field ha, hbefore, Rule.editedBy_concat_field]
    | node mark e =>
      rw [registry_perform_node, hbefore, List.map_map, Rule.editedBy_concat_node]

/-- **A registry is isolated from the rules it was loaded from.** Edits of their fields change
nothing in it, whatever other edits come before or after. An edit of a matcher leaves all rules
alone that have not come to hold this matcher, and scans find the same for them as before the
edit. -/
theorem load_isolated (hitems : ∀ item ∈ items, h.Has item)
    (hload : h.load items = .ok (kept, h')) {edits : List ObjectEdit}
    (hedits : ∀ a e, .field a e ∈ edits → .rule a ∈ items) :
    let loaded := h'.registry kept
    let now := h'.after edits
    (∃ registry, Registry.load (items.map h.entry) = .ok registry ∧ loaded = registry.marked) ∧
    (∀ a e, .rule a ∈ items → (now.perform (.field a e)).registry kept = now.registry kept) ∧
    ((∀ x ∈ edits, ∃ a e, x = .field a e) → now.registry kept = loaded) ∧
    ∀ mark e, let next := (now.perform (.node mark e)).registry kept
      next.ids = loaded.ids ∧
      (∀ (p : ℕ) (rule : Rule SeverityMark), loaded.rules[p]? = some rule →
        ¬ rule.ComesToHold edits mark → next.rules[p]? = (now.registry kept).rules[p]?) ∧
      ∀ ids : List String,
        (∀ rule ∈ loaded.rules, rule.id ∈ ids → ¬ rule.ComesToHold edits mark) →
        ∀ (engine : Engine) (files : List SourceFile) (order order' : List ℕ),
          order.Perm (List.range files.length) → order'.Perm (List.range files.length) →
            (engine.scanIn order' next.rules files).map (fun result => result.about ids) =
              (engine.scanIn order (now.registry kept).rules files).map
                fun result => result.about ids := by
  intro loaded now
  have happart := apart_of_load hitems hload
  have hnow : now.registry kept = ⟨loaded.rules.map (Rule.editedBy edits)⟩ :=
    happart.registry_after hedits
  refine ⟨?_, fun a e ha => (happart.after edits).registry_perform_field ha e, fun hfields => ?_,
    fun mark e => ?_⟩
  · obtain ⟨registry, hregistry, -, hkept⟩ := run_load hload
    exact ⟨registry, hregistry, registry_of_keepsAs hkept⟩
  · have hid : Rule.editedBy edits = (id : Rule SeverityMark → Rule SeverityMark) :=
      funext (Rule.editedBy_fields hfields)
    rw [hnow, hid, List.map_id]
  · have hnext : (now.perform (.node mark e)).registry kept =
        ⟨loaded.rules.map (Rule.editedBy (edits ++ [.node mark e]))⟩ := by
      rw [registry_perform_node, hnow, List.map_map, Rule.editedBy_concat_node]
    rw [hnext, hnow]
    refine ⟨?_, fun p rule hrule hno => ?_, fun ids hids => ?_⟩
    · rw [Registry.ids, List.map_map]
      exact List.map_congr_left fun rule _ => Rule.id_editedBy _ rule
    · simp [hrule, Rule.editedBy_concat_of_not_comesToHold e hno]
    · intro engine files order order' horder horder'
      refine engine.scanIn_about_congr ?_ horder horder'
      simp only [List.filter_map, Function.comp_def, Rule.id_editedBy]
      refine List.map_congr_left fun rule hrule => ?_
      obtain ⟨hmem, hid⟩ := List.mem_filter.mp hrule
      exact Rule.editedBy_concat_of_not_comesToHold e (hids rule hmem (of_decide_eq_true hid))

/-- A rule as an object, with a severity by level. -/
def objectFor (id : String) (m : Matcher) (exclusions : ExclusionsRef) : RuleObject :=
  ⟨.str id, .null, .level .low, m, exclusions, .null⟩

/-- Three rules of a caller, of which the first two hold one matcher. -/
def sharingHeap : Heap :=
  let shared : Matcher := .any 0 [.literal 1 (.str "x")]
  { rule := fun a =>
      if a = 0 then objectFor "A" shared (.list 3)
      else if a = 1 then objectFor "B" (.all 2 [shared]) (.list 4)
      else objectFor "C" (.literal 3 (.str "y")) (.tuple [])
    list := fun _ => []
    next := 5 }

def sharingItems : List Item := [.rule 0, .rule 1, .rule 2]

/-- Edits of the first rule, one of which reaches the matcher that the second one holds too. -/
def sharingEdits : List ObjectEdit :=
  [.field 0 (.severity (.str "bogus")), .field 0 (.exclusion (.literal 4 (.str "x"))),
    .node 0 (.child (.literal 5 (.str "z"))), .field 0 (.matcher (.literal 6 (.str "q")))]

/-- What is found, without the texts of the lines. -/
def places (scan : Except ScanAbort (ScanResult SeverityMark)) :
    Except ScanAbort (List (String × ℕ)) :=
  scan.map fun result => result.findings.map fun x => (x.ruleId, x.line)

theorem load_isolated_sharingRules :
    let files : List SourceFile := [⟨"a", ["x", "y", "z"]⟩]
    (∀ item ∈ sharingItems, sharingHeap.Has item) ∧
    (∀ a e, .field a e ∈ sharingEdits → .rule a ∈ sharingItems) ∧
    ∃ kept h', sharingHeap.load sharingItems = .ok (kept, h') ∧
      let now := (h'.after sharingEdits).registry kept
      let next := ((h'.after sharingEdits).perform (.node 1 (.text (.str "y")))).registry kept
      places (Engine.unlimited.scan now.rules files) =
        .ok [("A", 1), ("B", 1), ("C", 2), ("A", 3), ("B", 3)] ∧
      places (Engine.unlimited.scan next.rules files) =
        .ok [("A", 2), ("B", 2), ("C", 2), ("A", 3), ("B", 3)] ∧
      (Engine.unlimited.scan next.rules files).map (fun result => result.about ["C"]) =
        (Engine.unlimited.scan now.rules files).map fun result => result.about ["C"] := by
  intro files
  have hitems : ∀ item ∈ sharingItems, sharingHeap.Has item := by
    rintro - hitem a rfl
    have ha : a < 5 := by
      simp [sharingItems] at hitem
      omega
    refine ⟨Nat.zero_le a, ha, fun l hl => ⟨Nat.zero_le l, ?_⟩⟩
    by_cases h₀ : a = 0 <;> by_cases h₁ : a = 1 <;>
      simp [sharingHeap, objectFor, h₀, h₁] at hl ⊢ <;> omega
  have hedits : ∀ a e, .field a e ∈ sharingEdits → .rule a ∈ sharingItems := by
    intro a e hmem
    obtain rfl : a = 0 := by
      simp [sharingEdits] at hmem
      omega
    simp [sharingItems]
  have hload : sharingHeap.load sharingItems = .ok _ := rfl
  obtain ⟨-, -, -, hall⟩ := load_isolated hitems hload hedits
  obtain ⟨-, -, hscan⟩ := hall 1 (.text (.str "y"))
  refine ⟨hitems, hedits, _, _, hload, by cbv, by cbv, ?_⟩
  refine hscan ["C"] (fun rule hrule hid hholds => ?_) Engine.unlimited files _ _ (.refl _)
    (.refl _)
  -- the third rule holds the matcher with mark 3 only, and no edit appends the one with mark 1
  have hmarks : rule.marks = [3] := by
    have hpair := List.mem_map_of_mem (f := fun r : Rule SeverityMark => (r.id, r.marks)) hrule
    change _ ∈ [("A", [0, 1]), ("B", [2, 0, 1]), ("C", [3])] at hpair
    rw [List.mem_singleton.mp hid] at hpair
    simpa using hpair
  rcases hholds.mem_or_appended with hmem | ⟨parent, m, hmem, hmark⟩
  · rw [hmarks] at hmem
    exact absurd hmem (by decide)
  · obtain ⟨-, rfl⟩ : parent = 0 ∧ m = .literal 5 (.str "z") := by simpa [sharingEdits] using hmem
    simp [Matcher.marks] at hmark

/-- Two rules of a caller. -/
def pairHeap : Heap where
  rule a :=
    if a = 0 then objectFor "A" (.any 0 [.literal 1 (.str "x")]) (.tuple [])
    else objectFor "B" (.literal 2 (.str "y")) (.tuple [])
  list _ := []
  next := 3

/-- When the matcher of the second rule has been appended to that of the first one, an edit of it
changes what is found for both. Either way the registry shows the edited matcher. -/
theorem not_isolated_appendedMatcher :
    let files : List SourceFile := [⟨"a", ["x", "y", "z"]⟩]
    (∀ item ∈ [.rule 0, .rule 1], pairHeap.Has item) ∧
    ∃ kept h', pairHeap.load [.rule 0, .rule 1] = .ok (kept, h') ∧
      (h'.registry kept).rules.map (fun r => (r.id, r.marks)) = [("A", [0, 1]), ("B", [2])] ∧
      let now := (h'.after [.node 0 (.child (.literal 2 (.str "y")))])
      let next := now.perform (.node 2 (.text (.str "z")))
      places (Engine.unlimited.scan (now.registry kept).rules files) =
        .ok [("A", 1), ("A", 2), ("B", 2)] ∧
      places (Engine.unlimited.scan (next.registry kept).rules files) =
        .ok [("A", 1), ("A", 3), ("B", 3)] ∧
      (now.registry kept).rules.map Rule.matcher =
        [.any 0 [.literal 1 (.str "x"), .literal 2 (.str "y")], .literal 2 (.str "y")] ∧
      (next.registry kept).rules.map Rule.matcher =
        [.any 0 [.literal 1 (.str "x"), .literal 2 (.str "z")], .literal 2 (.str "z")] := by
  intro files
  have hitems : ∀ item ∈ [.rule 0, .rule 1], pairHeap.Has item := by
    rintro - hitem a rfl
    have ha : a < 3 := by
      simp at hitem
      omega
    refine ⟨Nat.zero_le a, ha, fun l hl => ?_⟩
    by_cases h₀ : a = 0 <;> simp [pairHeap, objectFor, h₀] at hl
  exact ⟨hitems, _, _, rfl, rfl, by cbv, by cbv, rfl, rfl⟩

end Heap

end LineAudit
