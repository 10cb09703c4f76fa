import LineAudit.Proofs.Rule.Heap
import LineAudit.Proofs.Scan.Abort
import LineAudit.Proofs.Scan.Exact
import LineAudit.Scan.Tally
import LineAudit.Session

/-!
The severities of the rules in use, over a whole session.

A registry is made with severities in objects of its own, and edits of matchers leave them alone.
Edits of fields reach it only while the caller holds its very objects, which a refused reload brings
about. Main result: the rules in use have severities exactly when none has been edited in this way
since the registry was made, and then every scan is given up or can be shown.
-/

namespace LineAudit

/-- Every rule has a severity. -/
def Registry.Graded (r : Registry SeverityMark) : Prop :=
  ∀ rule ∈ r.rules, ∃ s, rule.severity = .level s

/-! ### Severities of objects -/

namespace Heap

variable {h h' : Heap} {kept : List Kept}

/-- Every kept rule has a severity. -/
def Graded (h : Heap) (kept : List Kept) : Prop :=
  ∀ k ∈ kept, ∃ s, (h.rule k.address).severity = .level s

lemma graded_registry_iff : (h.registry kept).Graded ↔ h.Graded kept := by
  simp [Registry.Graded, registry, Graded, read]

/-- A kept rule has an object with a severity, at an address from `low` on. -/
structure IsFresh (h : Heap) (low : ℕ) (k : Kept) : Prop where
  own : h.Within low h.next k.address
  level : ∃ s, (h.rule k.address).severity = .level s

lemma IsFresh.grows {low : ℕ} {k : Kept} (hh : Grows h h') (hk : h.IsFresh low k) :
    h'.IsFresh low k :=
  ⟨hk.own.grows hh, by rw [hh.rule_eq _ hk.own.lt]; exact hk.level⟩

lemma KeepsAs.isFresh {low : ℕ} {r : Rule Severity} {k : Kept} (hk : h.KeepsAs low r k) :
    h.IsFresh low k := ⟨hk.own, r.severity, congrArg Rule.severity hk.read_eq⟩

/-- Growth leaves the severities of old objects alone. -/
lemma Grows.graded_iff (hh : Grows h h') (hold : ∀ k ∈ kept, k.address < h.next) :
    h'.Graded kept ↔ h.Graded kept := by
  refine forall₂_congr fun k hk => ?_
  rw [hh.rule_eq _ (hold k hk)]

/-- Only an edit of the severity of a rule changes it, and takes it away. -/
lemma severity_edit? {e : ObjectEdit} (he : h.edit? e = some h') (a : ℕ) :
    (∃ v, e = .field a (.severity v) ∧ (h'.rule a).severity = .raw v) ∨
      (∀ v, e ≠ .field a (.severity v)) ∧ (h'.rule a).severity = (h.rule a).severity := by
  cases e with
  | node mark e =>
    obtain rfl := Option.some.inj he
    exact .inr ⟨by simp, rfl⟩
  | field address f =>
    cases f with
    | severity v =>
      obtain rfl := Option.some.inj he
      by_cases ha : a = address
      · exact .inl ⟨v, by rw [ha], by simp [editRule, ha]⟩
      · exact .inr ⟨by simp [Ne.symm ha], by simp [editRule, ha]⟩
    | matcher m =>
      obtain rfl := Option.some.inj he
      refine .inr ⟨by simp, ?_⟩
      by_cases ha : a = address <;> simp [editRule, ha]
    | exclusion m =>
      rw [edit?] at he
      split at he
      next =>
        obtain rfl := Option.some.inj he
        exact .inr ⟨by simp, rfl⟩
      all_goals cases he

lemma graded_edit?_iff {e : ObjectEdit} (he : h.edit? e = some h')
    (hno : ∀ k ∈ kept, ∀ v, e ≠ .field k.address (.severity v)) :
    h'.Graded kept ↔ h.Graded kept := by
  refine forall₂_congr fun k hk => ?_
  rcases severity_edit? he k.address with ⟨v, hv, -⟩ | ⟨-, hsame⟩
  · exact absurd hv (hno k hk v)
  · rw [hsame]

lemma not_graded_editSeverity {k : Kept} {v : Value} (hk : k ∈ kept)
    (he : h.edit? (.field k.address (.severity v)) = some h') : ¬ h'.Graded kept := by
  intro hgraded
  obtain ⟨s, hs⟩ := hgraded k hk
  rcases severity_edit? he k.address with ⟨w, -, hraw⟩ | ⟨hno, -⟩
  · cases hs.symm.trans hraw
  · exact hno v rfl

/-- No edit brings a severity back. -/
lemma graded_of_edit? {e : ObjectEdit} (he : h.edit? e = some h') (hgraded : h'.Graded kept) :
    h.Graded kept := by
  refine (graded_edit?_iff he ?_).mp hgraded
  rintro k hk v rfl
  exact not_graded_editSeverity hk he hgraded

/-- What an edit of an item comes to is an edit of a severity only if the edit of the item is. -/
lemma aim?_severity_iff {item : Item} {e : RuleEdit} {target : ObjectEdit}
    (haim : h.aim? item e = some target) (a : ℕ) (v : Value) :
    target = .field a (.severity v) ↔ item = .rule a ∧ e = .field (.severity v) := by
  cases item with
  | foreign w => cases haim
  | rule address =>
    cases e with
    | field f =>
      obtain rfl := Option.some.inj haim
      simp
    | node e =>
      obtain ⟨mark, -, rfl⟩ := Option.map_eq_some_iff.mp haim
      simp

end Heap

lemma RuleEdit.fresh_le (e : RuleEdit) (n : ℕ) : n ≤ (e.fresh.run n).2 := by
  rcases e with (w | m | m) | (m | w)
  · exact Nat.le_refl n
  · exact m.fresh_le n
  · exact m.fresh_le n
  · exact m.fresh_le n
  · exact Nat.le_refl n

lemma RuleEdit.fresh_severity (e : RuleEdit) (n : ℕ) (v : Value) :
    (e.fresh.run n).1 = .field (.severity v) ↔ e = .field (.severity v) := by
  rcases e with (w | m | m) | (m | w)
  · exact Iff.rfl
  all_goals
    constructor
    · intro h
      exact absurd h nofun
    · intro h
      exact absurd h nofun

/-- A change makes a registry, or tries to. -/
def Change.TakesRules : Change → Prop
  | .load _ | .adopt _ | .reload => True
  | .edit _ _ | .limit _ _ _ | .setFiles _ | .addFile _ => False

namespace Session

variable {s s' : Session} {item : Item} {e : RuleEdit}

/-- Every rule in use has a severity. -/
def Graded (s : Session) : Prop := ∀ kept, s.inUse? = some kept → s.heap.Graded kept

/-- An item is an object of the registry in use. -/
def Keeps (s : Session) (item : Item) : Prop :=
  ∃ kept k, s.inUse? = some kept ∧ k ∈ kept ∧ item = .rule k.address

lemma graded_iff : s.Graded ↔ ∀ registry, s.current? = some registry → registry.Graded := by
  simp [Graded, current?, Heap.graded_registry_iff]

lemma after_concat (s : Session) (changes : List Change) (c : Change) :
    s.after (changes ++ [c]) = ((s.after changes).perform c).1 := by
  rw [after, List.foldl_append]
  rfl

/-! ### Edits of an item -/

lemma editOnce?_eq_some_iff : s.editOnce? item e = some s' ↔
    ∃ target heap, let h := ((Heap.marked e.fresh).run s.heap).2
      h.aim? item (e.fresh.run s.heap.next).1 = some target ∧ h.edit? target = some heap ∧
        { s with heap } = s' := by
  have hedit : s.editOnce? item e =
      ((((Heap.marked e.fresh).run s.heap).2.aim? item (e.fresh.run s.heap.next).1).bind
        ((Heap.marked e.fresh).run s.heap).2.edit?).map fun heap => { s with heap } := rfl
  simp only [hedit, Option.map_eq_some_iff, Option.bind_eq_some_iff]
  constructor
  · rintro ⟨heap, ⟨target, haim, hedit⟩, hs⟩
    exact ⟨target, heap, haim, hedit, hs⟩
  · rintro ⟨target, heap, haim, hedit, hs⟩
    exact ⟨heap, ⟨target, haim, hedit⟩, hs⟩

lemma keeps_editOnce? (he : s.editOnce? item e = some s') (item' : Item) :
    s'.Keeps item' ↔ s.Keeps item' := by
  obtain ⟨target, heap, -, -, rfl⟩ := editOnce?_eq_some_iff.mp he
  exact Iff.rfl

lemma graded_editOnce?_iff (he : s.editOnce? item e = some s')
    (hno : s.Keeps item → ∀ v, e ≠ .field (.severity v)) : s'.Graded ↔ s.Graded := by
  obtain ⟨target, heap, haim, hedit, rfl⟩ := editOnce?_eq_some_iff.mp he
  refine forall₂_congr fun kept hkept => ?_
  change heap.Graded kept ↔ ((Heap.marked e.fresh).run s.heap).2.Graded kept
  refine Heap.graded_edit?_iff hedit ?_
  rintro k hk v rfl
  obtain ⟨rfl, hv⟩ := (Heap.aim?_severity_iff haim _ v).mp rfl
  exact hno ⟨kept, k, hkept, hk, rfl⟩ v ((RuleEdit.fresh_severity _ _ _).mp hv)

lemma not_graded_editOnce? {v : Value} (hitem : s.Keeps item)
    (he : s.editOnce? item (.field (.severity v)) = some s') : ¬ s'.Graded := by
  obtain ⟨kept, k, hkept, hk, rfl⟩ := hitem
  obtain ⟨target, heap, haim, hedit, rfl⟩ := editOnce?_eq_some_iff.mp he
  obtain rfl := (Heap.aim?_severity_iff haim k.address v).mpr ⟨rfl, rfl⟩
  exact fun hgraded => Heap.not_graded_editSeverity hk hedit (hgraded kept hkept)

lemma graded_of_editOnce? (he : s.editOnce? item e = some s') (h : s'.Graded) : s.Graded := by
  obtain ⟨target, heap, -, hedit, rfl⟩ := editOnce?_eq_some_iff.mp he
  intro kept hkept
  change ((Heap.marked e.fresh).run s.heap).2.Graded kept
  exact Heap.graded_of_edit? hedit (h kept hkept)

lemma graded_of_editItem {edits : List RuleEdit} (h : (s.editItem item edits).1.Graded) :
    s.Graded := by
  induction edits generalizing s with
  | nil => exact h
  | cons e rest ih =>
    rw [editItem] at h
    cases he : s.editOnce? item e with
    | some s' => exact graded_of_editOnce? he (ih (by simpa [he] using h))
    | none => simpa [he] using h

/-- Edits of an item that is not kept, or of which none that is accepted is one of a severity. -/
lemma graded_editItem_iff {edits : List RuleEdit}
    (hno : s.Keeps item → ∀ before v after, edits = before ++ .field (.severity v) :: after →
      (s.editItem item (before ++ [.field (.severity v)])).2 ≠ none) :
    (s.editItem item edits).1.Graded ↔ s.Graded := by
  induction edits generalizing s with
  | nil => rfl
  | cons e rest ih =>
    rw [editItem]
    cases he : s.editOnce? item e with
    | none => rfl
    | some s' =>
      have hhere : s.Keeps item → ∀ v, e ≠ .field (.severity v) := by
        rintro hs v rfl
        refine hno hs [] v rest rfl ?_
        rw [List.nil_append, editItem, he]
        rfl
      refine (ih fun hs before v after hrest => ?_).trans (graded_editOnce?_iff he hhere)
      have hbefore := hno ((keeps_editOnce? he item).mp hs) (e :: before) v after
        (by rw [hrest]; rfl)
      simpa only [List.cons_append, editItem, he] using hbefore

/-- An edit of the severity of a kept item takes the severity away, whatever edits follow. -/
lemma not_graded_editItem {before after : List RuleEdit} {v : Value} (hitem : s.Keeps item)
    (h : (s.editItem item (before ++ [.field (.severity v)])).2 = none) :
    ¬ (s.editItem item (before ++ .field (.severity v) :: after)).1.Graded := by
  induction before generalizing s with
  | nil =>
    rw [List.nil_append, editItem] at h ⊢
    cases he : s.editOnce? item (.field (.severity v)) with
    | none => simp [he] at h
    | some s' => exact fun hgraded => not_graded_editOnce? hitem he (graded_of_editItem hgraded)
  | cons e before ih =>
    rw [List.cons_append, editItem] at h ⊢
    cases he : s.editOnce? item e with
    | none => simp [he] at h
    | some s' => exact ih ((keeps_editOnce? he item).mpr hitem) (by simpa only [he] using h)

/-! ### Loads -/

/-- A session has the objects of what the caller holds and of what the registry in use keeps. -/
structure Sound (s : Session) : Prop where
  held : ∀ item ∈ s.held, s.heap.Has item
  kept : ∀ kept, s.inUse? = some kept → ∀ k ∈ kept, s.heap.Within 0 s.heap.next k.address

/-- The caller holds an object of the registry in use. -/
def Shares (s : Session) : Prop := ∃ item ∈ s.held, s.Keeps item

/-- A session in which the caller has made new rules. -/
def handIn (s : Session) (entries : List Entry) : Session :=
  let made := (entries.mapM Heap.addEntry).run s.heap
  { s with heap := made.2, held := made.1 }

/-- A session in which the caller has been handed the rules of a registry. -/
def handOut (s : Session) (kept : List Kept) : Session :=
  { s with held := kept.map fun k : Kept => Item.rule k.address }

lemma load_eq (s : Session) (entries : List Entry) :
    s.load entries = (s.handIn entries).loadHeld := rfl

lemma reload_eq {kept : List Kept} (h : s.inUse? = some kept) :
    s.reload = (s.handOut kept).loadHeld := by
  unfold reload
  split
  next hnone => cases h.symm.trans hnone
  next kept' h' =>
    obtain rfl := Option.some.inj (h.symm.trans h')
    rfl

lemma reload_none (h : s.inUse? = none) : s.reload = (s, some .noRegistry) := by
  unfold reload
  split
  next => rfl
  next kept h' => cases h.symm.trans h'

/-- A load puts new objects in use, or leaves the session alone. -/
lemma loadHeld_cases (s : Session) :
    (∃ kept heap, s.loadHeld = ({ s with heap, inUse? := some kept }, none) ∧
      s.heap.Grows heap ∧ ∀ k ∈ kept, heap.IsFresh s.heap.next k) ∨
    ∃ failure, s.loadHeld = (s, some (.load failure)) := by
  unfold loadHeld
  cases hload : s.heap.load s.held with
  | error failure => exact .inr ⟨failure, rfl⟩
  | ok made =>
    obtain ⟨registry, -, hgrows, hkept⟩ := Heap.run_load hload
    exact .inl ⟨made.1, made.2, rfl, hgrows, forall_right_of_forall₂ hkept fun _ _ hk => hk.isFresh⟩

lemma handIn_spec (s : Session) (entries : List Entry) :
    s.heap.Grows (s.handIn entries).heap ∧
      ∀ item ∈ (s.handIn entries).held, (s.handIn entries).heap.IsNew s.heap.next item := by
  refine ⟨Heap.onlyAdds_mapM Heap.onlyAdds_addEntry entries s.heap, ?_⟩
  have hmade := Heap.forall₂_mapM (P := fun heap _ item => heap.IsNew s.heap.next item)
    Heap.onlyAdds_addEntry Heap.IsNew.grows Heap.isNew_addEntry entries s.heap (Nat.le_refl _)
  exact forall_right_of_forall₂ hmade fun _ _ hitem => hitem

lemma adopt_spec (s : Session) (registry : Registry Severity) :
    ∃ kept heap, s.adopt registry = ({ s with heap, inUse? := some kept }, none) ∧
      s.heap.Grows heap ∧ ∀ k ∈ kept, heap.IsFresh s.heap.next k := by
  have hadds (r : Rule Severity) : Heap.OnlyAdds (Heap.marked r.fresh >>= Heap.keep) :=
    (Heap.onlyAdds_marked r.fresh_le).bind Heap.onlyAdds_keep
  have hmade := Heap.forall₂_mapM (P := fun heap (_ : Rule Severity) k =>
      heap.IsFresh s.heap.next k) hadds Heap.IsFresh.grows (fun r h hlow =>
      (Heap.keepsAs_keep _ _ (hlow.trans (r.fresh_le h.next))).isFresh) registry.rules s.heap
    (Nat.le_refl _)
  exact ⟨_, _, rfl, Heap.onlyAdds_mapM hadds registry.rules s.heap,
    forall_right_of_forall₂ hmade fun _ _ hk => hk⟩

/-! ### Objects of the caller and of the registry -/

lemma Sound.handIn (hs : s.Sound) (entries : List Entry) : (s.handIn entries).Sound := by
  obtain ⟨hgrows, hnew⟩ := s.handIn_spec entries
  refine ⟨fun item hitem a ha => (hnew item hitem a ha).of_le, fun kept hkept k hk => ?_⟩
  exact (hs.kept kept hkept k hk).grows hgrows

lemma Sound.handOut (hs : s.Sound) {kept : List Kept} (hkept : s.inUse? = some kept) :
    (s.handOut kept).Sound := by
  refine ⟨?_, hs.kept⟩
  rintro - hitem a rfl
  obtain ⟨k, hk, ha⟩ := List.mem_map.mp hitem
  obtain rfl := Item.rule.inj ha
  exact hs.kept kept hkept k hk

/-- New objects are put in use. -/
lemma Sound.use (hs : s.Sound) {kept : List Kept} {heap : Heap} (hgrows : s.heap.Grows heap)
    (hfresh : ∀ k ∈ kept, heap.IsFresh s.heap.next k) :
    ({ s with heap, inUse? := some kept } : Session).Sound := by
  refine ⟨fun item hitem => (hs.held item hitem).grows hgrows, ?_⟩
  rintro _ ⟨⟩ k hk
  exact (hfresh k hk).own.of_le

lemma Sound.loadHeld (hs : s.Sound) : s.loadHeld.1.Sound := by
  rcases s.loadHeld_cases with ⟨kept, heap, h, hgrows, hfresh⟩ | ⟨failure, h⟩
  · rw [h]
    exact hs.use hgrows hfresh
  · rwa [h]

lemma Sound.editOnce? (hs : s.Sound) (he : s.editOnce? item e = some s') : s'.Sound := by
  obtain ⟨target, heap, -, hedit, rfl⟩ := editOnce?_eq_some_iff.mp he
  have hmarked : s.heap.Grows ((Heap.marked e.fresh).run s.heap).2 :=
    Heap.onlyAdds_marked e.fresh_le s.heap
  obtain rfl := Heap.perform_of_edit? hedit
  have hnext := (Heap.perform_frame ((Heap.marked e.fresh).run s.heap).2 target).1
  constructor
  · intro item' hitem a ha
    rw [hnext]
    exact ((hs.held item' hitem a ha).grows hmarked).perform target
  · intro kept hkept k hk
    rw [hnext]
    exact ((hs.kept kept hkept k hk).grows hmarked).perform target

lemma Sound.editItem (hs : s.Sound) (edits : List RuleEdit) : (s.editItem item edits).1.Sound := by
  induction edits generalizing s with
  | nil => exact hs
  | cons e rest ih =>
    rw [Session.editItem]
    cases he : s.editOnce? item e with
    | none => exact hs
    | some s' => exact ih (hs.editOnce? he)

lemma Sound.perform (hs : s.Sound) (c : Change) : (s.perform c).1.Sound := by
  cases c with
  | load entries => exact (hs.handIn entries).loadHeld
  | adopt registry =>
    obtain ⟨kept, heap, h, hgrows, hfresh⟩ := s.adopt_spec registry
    rw [Session.perform, h]
    exact hs.use hgrows hfresh
  | reload =>
    rw [Session.perform]
    cases hkept : s.inUse? with
    | none =>
      rw [reload_none hkept]
      exact hs
    | some kept =>
      rw [reload_eq hkept]
      exact (hs.handOut hkept).loadHeld
  | edit index edits =>
    rw [Session.perform, edit]
    cases s.item? index with
    | none => exact hs
    | some item => exact hs.editItem edits
  | limit maxLines? deadline? workers =>
    rw [Session.perform, limit]
    split <;> exact ⟨hs.held, hs.kept⟩
  | setFiles files => exact ⟨hs.held, hs.kept⟩
  | addFile file => exact ⟨hs.held, hs.kept⟩

lemma sound_after (changes : List Change) : (begin.after changes).Sound := by
  induction changes using List.reverseRecOn with
  | nil => exact ⟨by simp [after, begin], by simp [after, begin]⟩
  | append_singleton changes c ih =>
    rw [after_concat]
    exact ih.perform c

/-- What is put in use is new, so that the caller has nothing of it. -/
lemma not_shares_use (hs : s.Sound) {kept : List Kept} {heap : Heap}
    (hfresh : ∀ k ∈ kept, heap.IsFresh s.heap.next k) :
    ¬ ({ s with heap, inUse? := some kept } : Session).Shares := by
  rintro ⟨item, hitem, kept', k, hkept, hk, rfl⟩
  obtain rfl := Option.some.inj hkept
  exact absurd (hfresh k hk).own.le (Nat.not_le.mpr (hs.held _ hitem _ rfl).lt)

/-- What the caller has made is new, so that the registry in use has nothing of it. -/
lemma not_shares_handIn (hs : s.Sound) (entries : List Entry) : ¬ (s.handIn entries).Shares := by
  rintro ⟨item, hitem, kept, k, hkept, hk, rfl⟩
  have hnew := (s.handIn_spec entries).2 _ hitem _ rfl
  exact absurd hnew.le (Nat.not_le.mpr (hs.kept kept hkept k hk).lt)

lemma not_shares_loadHeld (hs : s.Sound) (hno : ¬ s.Shares) : ¬ s.loadHeld.1.Shares := by
  rcases s.loadHeld_cases with ⟨kept, heap, h, -, hfresh⟩ | ⟨failure, h⟩
  · rw [h]
    exact not_shares_use hs hfresh
  · rwa [h]

/-! ### Changes -/

/-- A change puts another registry in use. -/
def Replaces (s : Session) : Change → Prop
  | .load entries => (s.load entries).2 = none
  | .adopt _ => True
  | .reload => s.reload.2 = none
  | .edit _ _ | .limit _ _ _ | .setFiles _ | .addFile _ => False

/-- A change edits the severity of an object of the registry in use, and is not refused up to this
edit. -/
def Tampers (s : Session) (c : Change) : Prop :=
  ∃ index item before v after, c = .edit index (before ++ .field (.severity v) :: after) ∧
    s.item? index = some item ∧ s.Keeps item ∧
      (s.edit index (before ++ [.field (.severity v)])).2 = none

variable {c : Change}

lemma edit_of_item {index : Int} (h : s.item? index = some item) (edits : List RuleEdit) :
    s.edit index edits = s.editItem item edits := by
  rw [edit, h]

lemma edit_of_noItem {index : Int} (h : s.item? index = none) (edits : List RuleEdit) :
    s.edit index edits = (s, some .noRule) := by
  rw [edit, h]

lemma item_mem_held {index : Int} (h : s.item? index = some item) : item ∈ s.held := by
  obtain ⟨place, -, hplace⟩ := Option.bind_eq_some_iff.mp h
  exact List.mem_of_getElem? hplace

lemma shares_editItem_iff (item : Item) (edits : List RuleEdit) :
    (s.editItem item edits).1.Shares ↔ s.Shares := by
  induction edits generalizing s with
  | nil => rfl
  | cons e rest ih =>
    rw [editItem]
    cases he : s.editOnce? item e with
    | none => rfl
    | some s' =>
      obtain ⟨target, heap, -, -, rfl⟩ := editOnce?_eq_some_iff.mp he
      exact ih

lemma shares_edit_iff (index : Int) (edits : List RuleEdit) :
    (s.edit index edits).1.Shares ↔ s.Shares := by
  cases hitem : s.item? index with
  | none => rw [edit_of_noItem hitem]
  | some item => rw [edit_of_item hitem, shares_editItem_iff]

lemma graded_use {kept : List Kept} {heap : Heap} {low : ℕ}
    (hfresh : ∀ k ∈ kept, heap.IsFresh low k) :
    ({ s with heap, inUse? := some kept } : Session).Graded := by
  rintro _ ⟨⟩ k hk
  exact (hfresh k hk).level

lemma graded_loadHeld (h : s.loadHeld.2 = none) : s.loadHeld.1.Graded := by
  rcases s.loadHeld_cases with ⟨kept, heap, hload, -, hfresh⟩ | ⟨failure, hload⟩
  · rw [hload]
    exact graded_use hfresh
  · simp [hload] at h

lemma loadHeld_of_failure (h : s.loadHeld.2 ≠ none) : s.loadHeld.1 = s := by
  rcases s.loadHeld_cases with ⟨kept, heap, hload, -⟩ | ⟨failure, hload⟩
  · simp [hload] at h
  · rw [hload]

lemma graded_handIn_iff (hs : s.Sound) (entries : List Entry) :
    (s.handIn entries).Graded ↔ s.Graded :=
  forall₂_congr fun kept hkept => (s.handIn_spec entries).1.graded_iff fun k hk =>
    (hs.kept kept hkept k hk).lt

lemma graded_of_replaces (h : s.Replaces c) : (s.perform c).1.Graded := by
  cases c with
  | load entries => exact graded_loadHeld h
  | adopt registry =>
    obtain ⟨kept, heap, hadopt, -, hfresh⟩ := s.adopt_spec registry
    rw [perform, hadopt]
    exact graded_use hfresh
  | reload =>
    change s.reload.2 = none at h
    rw [perform]
    cases hkept : s.inUse? with
    | none => simp [reload_none hkept] at h
    | some kept =>
      rw [reload_eq hkept] at h ⊢
      exact graded_loadHeld h
  | edit | limit | setFiles | addFile => exact h.elim

lemma not_graded_of_tampers (h : s.Tampers c) : ¬ (s.perform c).1.Graded := by
  obtain ⟨index, item, before, v, after, rfl, hitem, hkeeps, haccepted⟩ := h
  rw [edit_of_item hitem] at haccepted
  rw [perform, edit_of_item hitem]
  exact not_graded_editItem hkeeps haccepted

lemma graded_perform_iff (hs : s.Sound) (hr : ¬ s.Replaces c) (ht : ¬ s.Tampers c) :
    (s.perform c).1.Graded ↔ s.Graded := by
  cases c with
  | load entries =>
    change (s.handIn entries).loadHeld.2 ≠ none at hr
    rw [perform, load_eq, loadHeld_of_failure hr]
    exact graded_handIn_iff hs entries
  | adopt registry => exact absurd trivial hr
  | reload =>
    change ¬ s.reload.2 = none at hr
    rw [perform]
    cases hkept : s.inUse? with
    | none => rw [reload_none hkept]
    | some kept =>
      rw [reload_eq hkept] at hr ⊢
      rw [loadHeld_of_failure hr]
      rfl
  | edit index edits =>
    rw [perform]
    cases hitem : s.item? index with
    | none => rw [edit_of_noItem hitem]
    | some item =>
      rw [edit_of_item hitem]
      refine graded_editItem_iff fun hkeeps before v after hedits haccepted => ht ?_
      exact ⟨index, item, before, v, after, by rw [hedits], hitem, hkeeps,
        by rwa [edit_of_item hitem]⟩
  | limit maxLines? deadline? workers =>
    rw [perform, limit]
    split <;> rfl
  | setFiles files => rfl
  | addFile file => rfl

/-! ### Sessions -/

/-- Some change tampers with the registry that is in use after changes. -/
def Tampered (changes : List Change) : Prop :=
  ∃ before c after, changes = before ++ c :: after ∧ (begin.after before).Tampers c ∧
    ∀ between d rest, after = between ++ d :: rest →
      ¬ (begin.after (before ++ c :: between)).Replaces d

/-- The last change tampers with the registry in use, or it leaves one in use with which a change
before has tampered. -/
lemma tampered_concat_iff (changes : List Change) (d : Change) :
    Tampered (changes ++ [d]) ↔ (begin.after changes).Tampers d ∨
      Tampered changes ∧ ¬ (begin.after changes).Replaces d := by
  constructor
  · rintro ⟨before, c, after, hsplit, ht, hafter⟩
    rcases List.eq_nil_or_concat after with rfl | ⟨after, last, rfl⟩
    · obtain ⟨rfl, hlast⟩ := List.append_inj' hsplit rfl
      obtain rfl := List.head_eq_of_cons_eq hlast
      exact .inl ht
    · have hsplit' : changes ++ [d] = (before ++ c :: after) ++ [last] := by simpa using hsplit
      obtain ⟨rfl, hlast⟩ := List.append_inj' hsplit' rfl
      obtain rfl := List.head_eq_of_cons_eq hlast
      refine .inr ⟨⟨before, c, after, rfl, ht, ?_⟩, hafter after d [] (by simp)⟩
      rintro between d' rest rfl
      exact hafter between d' (rest ++ [d]) (by simp)
  · rintro (ht | ⟨⟨before, c, after, rfl, ht, hafter⟩, hr⟩)
    · exact ⟨changes, d, [], rfl, ht, by simp⟩
    · refine ⟨before, c, after ++ [d], by simp, ht, ?_⟩
      intro between d' rest hsplit
      rcases List.eq_nil_or_concat rest with rfl | ⟨rest, last, rfl⟩
      · obtain ⟨rfl, hlast⟩ := List.append_inj' hsplit rfl
        obtain rfl := List.head_eq_of_cons_eq hlast
        exact hr
      · have hsplit' : after ++ [d] = (between ++ d' :: rest) ++ [last] := by simpa using hsplit
        obtain ⟨rfl, -⟩ := List.append_inj' hsplit' rfl
        exact hafter between d' rest rfl

lemma graded_after_iff (changes : List Change) :
    (begin.after changes).Graded ↔ ¬ Tampered changes := by
  induction changes using List.reverseRecOn with
  | nil =>
    have hbegin : (begin.after []).Graded := by simp [Graded, after, begin]
    simp [hbegin, Tampered]
  | append_singleton changes d ih =>
    rw [after_concat, tampered_concat_iff]
    by_cases ht : (begin.after changes).Tampers d
    · simp [ht, not_graded_of_tampers ht]
    · by_cases hr : (begin.after changes).Replaces d
      · simp [ht, hr, graded_of_replaces hr]
      · simp [ht, hr, graded_perform_iff (sound_after changes) hr ht, ih]

/-- The caller holds an object of the registry in use only after a refused reload, when no registry
has been made, nor tried, since. -/
lemma refused_of_shares (changes : List Change) (h : (begin.after changes).Shares) :
    ∃ before after failure, changes = before ++ .reload :: after ∧
      (begin.after before).reload.2 = some (.load failure) ∧ ∀ c ∈ after, ¬ c.TakesRules := by
  induction changes using List.reverseRecOn with
  | nil =>
    obtain ⟨item, hitem, -⟩ := h
    simp [after, begin] at hitem
  | append_singleton changes d ih =>
    have hs := sound_after changes
    rw [after_concat] at h
    have hlater (hsame : (begin.after changes).Shares) (hd : ¬ d.TakesRules) :
        ∃ before after failure, changes ++ [d] = before ++ .reload :: after ∧
          (begin.after before).reload.2 = some (.load failure) ∧ ∀ c ∈ after, ¬ c.TakesRules := by
      obtain ⟨before, after, failure, rfl, hrefused, hafter⟩ := ih hsame
      refine ⟨before, after ++ [d], failure, by simp, hrefused, ?_⟩
      simpa [or_imp, forall_and] using ⟨hafter, hd⟩
    cases d with
    | load entries =>
      exact absurd h (not_shares_loadHeld (hs.handIn entries) (not_shares_handIn hs entries))
    | adopt registry =>
      obtain ⟨kept, heap, hadopt, -, hfresh⟩ := (begin.after changes).adopt_spec registry
      rw [perform, hadopt] at h
      exact absurd h (not_shares_use hs hfresh)
    | reload =>
      rw [perform] at h
      cases hkept : (begin.after changes).inUse? with
      | none =>
        rw [reload_none hkept] at h
        obtain ⟨item, -, kept, k, hsome, -⟩ := h
        cases hkept.symm.trans hsome
      | some kept =>
        rcases ((begin.after changes).handOut kept).loadHeld_cases with
          ⟨kept', heap, hload, -, hfresh⟩ | ⟨failure, hload⟩
        · rw [reload_eq hkept, hload] at h
          exact absurd h (not_shares_use (hs.handOut hkept) hfresh)
        · exact ⟨changes, [], failure, rfl, by rw [reload_eq hkept, hload], by simp⟩
    | edit index edits => exact hlater ((shares_edit_iff index edits).mp h) id
    | limit maxLines? deadline? workers =>
      refine hlater ?_ id
      rw [perform, limit] at h
      split at h <;> exact h
    | setFiles files => exact hlater h id
    | addFile file => exact hlater h id

end Session

/-! ### Scans -/

/-- A finding with a mark in the place of its severity. -/
def Finding.marked (f : Finding Severity) : Finding SeverityMark :=
  { f with severity := .level f.severity }

/-- Findings with severities can all be counted and shown as they are. -/
lemma ScanResult.exists_tallied {result : ScanResult SeverityMark}
    (h : ∀ x ∈ result.findings, ∃ s, x.severity = .level s) :
    ∃ answer, result.tallied = .ok answer ∧ result.findings = answer.findings.map Finding.marked ∧
      result.errors = answer.errors := by
  have hcounted : ∀ mark ∈ result.severities, ∃ s, mark.counted = .ok s := by
    intro mark hmark
    obtain ⟨x, hx, rfl⟩ := List.mem_map.mp hmark
    obtain ⟨s, hs⟩ := h x hx
    exact ⟨s, by rw [hs]; rfl⟩
  have hshown : ∀ x ∈ result.findings, ∃ y, x.shown = .ok y ∧ x = y.marked := by
    rintro ⟨id, mark, file, line, snippet⟩ hx
    obtain ⟨s, rfl⟩ := h _ hx
    exact ⟨⟨id, s, file, line, snippet⟩, rfl, rfl⟩
  obtain ⟨counts, hcounts⟩ := exists_forall₂ hcounted
  obtain ⟨findings, hfindings⟩ := exists_forall₂ hshown
  refine ⟨⟨findings, result.errors⟩, ?_, ?_, rfl⟩
  · rw [tallied, mapM_eq_ok_iff.mpr hcounts,
      mapM_eq_ok_iff.mpr (hfindings.imp fun x y hxy => hxy.1)]
    rfl
  · rw [← List.forall₂_eq_eq_eq, List.forall₂_map_right_iff]
    exact hfindings.imp fun x y hxy => hxy.2

/-- A scan with rules that have severities is given up, or what it finds can be shown. -/
lemma Registry.Graded.scan_shown {registry : Registry SeverityMark} (h : registry.Graded)
    (e : Engine) (files : List SourceFile) :
    (∃ abort, e.scan registry.rules files = .error abort ∧
      (e.InRange → ∃ text, abort.message? = some text)) ∨
      ∃ result answer, e.scan registry.rules files = .ok result ∧ result.tallied = .ok answer ∧
        result.findings = answer.findings.map Finding.marked ∧ result.errors = answer.errors := by
  cases hscan : e.scan registry.rules files with
  | error abort =>
    have haborts := (e.scanIn_eq_error_iff registry.rules (List.Perm.refl _)).mp hscan
    exact .inl ⟨abort, rfl, fun hrange => hrange.exists_message haborts⟩
  | ok result =>
    obtain ⟨-, rfl⟩ := (e.scanIn_eq_ok_iff registry.rules (List.Perm.refl _) result).mp hscan
    have hlevels : ∀ x ∈ (Engine.found registry.rules files).findings,
        ∃ s, x.severity = .level s := by
      intro x hx
      obtain ⟨r, hr, -, hseverity⟩ := Engine.rule_of_finding hx
      rw [← hseverity]
      exact h r hr
    obtain ⟨answer, hanswer⟩ := ScanResult.exists_tallied hlevels
    exact .inr ⟨_, answer, rfl, hanswer⟩

namespace Session

/-- **The rules in use have severities unless one has been edited while the caller held the very
objects of the registry**, which a refused reload brings about and nothing else does. As long as
they have severities, every scan of a session is given up, in words when its limits are in range,
or can be counted and shown by severity. -/
theorem graded_unless_tampered (changes : List Change) :
    ((∀ registry, (begin.after changes).current? = some registry →
        ∀ rule ∈ registry.rules, ∃ s, rule.severity = .level s) ↔ ¬ Tampered changes) ∧
    (¬ Tampered changes → ∀ registry, (begin.after changes).current? = some registry →
      let s := begin.after changes
      (∃ abort, s.engine.scan registry.rules s.files = .error abort ∧
        (s.engine.InRange → ∃ text, abort.message? = some text)) ∨
        ∃ result answer, s.engine.scan registry.rules s.files = .ok result ∧
          result.tallied = .ok answer ∧ result.findings = answer.findings.map Finding.marked ∧
          result.errors = answer.errors) ∧
    ∀ c, (begin.after changes).Tampers c →
      ∃ before after failure, changes = before ++ .reload :: after ∧
        (begin.after before).reload.2 = some (.load failure) ∧ ∀ d ∈ after, ¬ d.TakesRules := by
  have hiff := graded_iff.symm.trans (graded_after_iff changes)
  refine ⟨hiff, fun hno registry hc => (hiff.mpr hno registry hc).scan_shown _ _, fun c hc => ?_⟩
  obtain ⟨index, item, -, -, -, -, hitem, hkeeps, -⟩ := hc
  exact refused_of_shares changes ⟨item, item_mem_held hitem, hkeeps⟩

/-- A session in which a reload is refused because of an empty literal, after which the severity of
the rule is edited. -/
def refusedReload : List Change :=
  [.load [.draft ⟨.str "A", .null, .raw (.str "low"), .literal 0 (.str "x"), .list [], .null⟩],
    .setFiles [⟨"a", ["x"]⟩], .edit 0 [.node (.text (.str ""))], .reload,
    .edit 0 [.field (.severity (.str "bogus"))]]

/-- After a refused reload the registry in use may hold a rule without a severity, whose findings
cannot be counted. -/
theorem not_graded_refusedReload :
    let s := begin.after refusedReload
    ∃ registry result, s.current? = some registry ∧
      registry.rules.map Rule.severity = [.raw (.str "bogus")] ∧
      s.engine.scan registry.rules s.files = .ok result ∧ result.tallied = .error .unknown := by
  let rule : Rule SeverityMark :=
    ⟨"A", .null, .raw (.str "bogus"), .literal 0 (.str ""), [], .null⟩
  have hscan : Engine.unlimited.scan [rule] [⟨"a", ["x"]⟩] =
      .ok ⟨[⟨"A", .raw (.str "bogus"), "a", 1, "x"⟩], []⟩ := by cbv
  exact ⟨⟨[rule]⟩, _, rfl, rfl, hscan, rfl⟩

end Session

end LineAudit
