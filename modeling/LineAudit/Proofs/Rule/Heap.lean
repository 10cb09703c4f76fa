import LineAudit.Proofs.Registry
import LineAudit.Rule.Heap

/-!
What new objects and edits leave as it was.

A heap grows when objects are added: those it had stay as they are. A registry that is loaded has
objects of its own, with addresses beyond all old ones, so that an edit of a field at an old address
does not reach it. An edit of a matcher reaches it as it reaches all rules.
-/

namespace LineAudit

/-! ### New marks -/

namespace Matcher

mutual

lemma fresh_le : ∀ (m : Matcher) (n : ℕ), n ≤ (m.fresh.run n).2
  | .literal _ _, n | .regex _ _, n | .alarmed _ _ _ _, n => Nat.le_succ n
  | .foreign _, n => Nat.le_refl n
  | .any _ children, n | .all _ children, n =>
    (Nat.le_succ n).trans (freshEach_le children (n + 1))

lemma freshEach_le : ∀ (ms : List Matcher) (n : ℕ), n ≤ ((freshEach ms).run n).2
  | [], n => Nat.le_refl n
  | m :: rest, n => (m.fresh_le n).trans (freshEach_le rest (m.fresh.run n).2)

end

end Matcher

lemma Rule.fresh_le {σ : Type} (r : Rule σ) (n : ℕ) : n ≤ (r.fresh.run n).2 :=
  (r.matcher.fresh_le n).trans (Matcher.freshEach_le r.exclusions _)

namespace Heap

variable {α β : Type}

/-! ### Growth -/

/-- A heap has grown into another one, which has all its objects as they were. -/
structure Grows (h h' : Heap) : Prop where
  next_le : h.next ≤ h'.next
  rule_eq : ∀ a < h.next, h'.rule a = h.rule a
  list_eq : ∀ a < h.next, h'.list a = h.list a

lemma Grows.refl (h : Heap) : Grows h h := ⟨Nat.le_refl _, fun _ _ => rfl, fun _ _ => rfl⟩

lemma Grows.trans {h h' h'' : Heap} (hh : Grows h h') (hh' : Grows h' h'') : Grows h h'' where
  next_le := hh.next_le.trans hh'.next_le
  rule_eq a ha := (hh'.rule_eq a (ha.trans_le hh.next_le)).trans (hh.rule_eq a ha)
  list_eq a ha := (hh'.list_eq a (ha.trans_le hh.next_le)).trans (hh.list_eq a ha)

/-- A step that only adds objects. -/
def OnlyAdds (x : StateM Heap α) : Prop := ∀ h, Grows h (x.run h).2

lemma onlyAdds_pure (a : α) : OnlyAdds (pure a) := fun h => .refl h

lemma OnlyAdds.bind {x : StateM Heap α} {f : α → StateM Heap β} (hx : OnlyAdds x)
    (hf : ∀ a, OnlyAdds (f a)) : OnlyAdds (x >>= f) :=
  fun h => (hx h).trans (hf _ _)

lemma onlyAdds_addRule (o : RuleObject) : OnlyAdds (addRule o) := fun _ =>
  ⟨Nat.le_succ _, fun _ ha => if_neg ha.ne, fun _ _ => rfl⟩

lemma onlyAdds_addList (items : List Matcher) : OnlyAdds (addList items) := fun _ =>
  ⟨Nat.le_succ _, fun _ _ => rfl, fun _ ha => if_neg ha.ne⟩

lemma onlyAdds_marked {x : StateM ℕ α} (hx : ∀ n, n ≤ (x.run n).2) : OnlyAdds (marked x) :=
  fun h => ⟨hx h.next, fun _ _ => rfl, fun _ _ => rfl⟩

lemma onlyAdds_addExclusions (xs : Exclusions) : OnlyAdds (addExclusions xs) := by
  cases xs with
  | list items =>
    exact (onlyAdds_marked (Matcher.freshEach_le items)).bind fun _ =>
      (onlyAdds_addList _).bind fun _ => onlyAdds_pure _
  | tuple items =>
    exact (onlyAdds_marked (Matcher.freshEach_le items)).bind fun _ => onlyAdds_pure _
  | foreign v => exact onlyAdds_pure _

lemma onlyAdds_addEntry (e : Entry) : OnlyAdds (addEntry e) := by
  cases e with
  | foreign v => exact onlyAdds_pure _
  | draft d =>
    exact (onlyAdds_marked d.matcher.fresh_le).bind fun _ =>
      (onlyAdds_addExclusions _).bind fun _ => (onlyAdds_addRule _).bind fun _ => onlyAdds_pure _

lemma onlyAdds_keep (r : Rule Severity) : OnlyAdds (keep r) :=
  (onlyAdds_addList _).bind fun _ => (onlyAdds_addRule _).bind fun _ => onlyAdds_pure _

lemma onlyAdds_mapM {f : α → StateM Heap β} (hf : ∀ a, OnlyAdds (f a)) (as : List α) :
    OnlyAdds (as.mapM f) := by
  induction as with
  | nil => exact onlyAdds_pure _
  | cons a rest ih =>
    rw [List.mapM_cons]
    exact (hf a).bind fun _ => ih.bind fun _ => onlyAdds_pure _

/-- What holds of each result of a step when it is made, and goes on to hold when the heap grows,
holds of all results at the end. -/
lemma forall₂_mapM {f : α → StateM Heap β} {P : Heap → α → β → Prop} {bound : ℕ}
    (hf : ∀ a, OnlyAdds (f a)) (hgrows : ∀ {h h' a b}, Grows h h' → P h a b → P h' a b)
    (hmade : ∀ a h, bound ≤ h.next → P ((f a).run h).2 a ((f a).run h).1) (as : List α) (h : Heap)
    (hbound : bound ≤ h.next) :
    List.Forall₂ (P ((as.mapM f).run h).2) as ((as.mapM f).run h).1 := by
  induction as generalizing h with
  | nil => exact .nil
  | cons a rest ih =>
    rw [List.mapM_cons]
    have hrest : Grows ((f a).run h).2 ((rest.mapM f).run ((f a).run h).2).2 :=
      onlyAdds_mapM hf rest _
    exact .cons (hgrows hrest (hmade a h hbound))
      (ih ((f a).run h).2 (hbound.trans (hf a h).next_le))

/-! ### Objects of their own -/

/-- The rule at an address, and its list of exclusions, have addresses from `low` on and below
`high`. -/
structure Within (h : Heap) (low high address : ℕ) : Prop where
  le : low ≤ address
  lt : address < high
  list : ∀ l, (h.rule address).exclusions = .list l → low ≤ l ∧ l < high

/-- An object of the heap for which all old objects are below `low`. -/
def IsNew (h : Heap) (low : ℕ) (item : Item) : Prop :=
  ∀ a, item = .rule a → h.Within low h.next a

/-- An item of which the heap has the object. -/
def Has (h : Heap) (item : Item) : Prop := h.IsNew 0 item

/-- A kept rule has an object of its own, with a list of its own, in which the rule stands. -/
structure KeepsAs (h : Heap) (low : ℕ) (r : Rule Severity) (k : Kept) : Prop where
  own : h.Within low h.next k.address
  read_eq : h.read k = r.withSeverity (.level r.severity)

variable {h h' : Heap} {low : ℕ}

lemma Within.grows {a : ℕ} (hh : Grows h h') (hw : h.Within low h.next a) :
    h'.Within low h'.next a := by
  refine ⟨hw.le, hw.lt.trans_le hh.next_le, fun l hl => ?_⟩
  rw [hh.rule_eq a hw.lt] at hl
  exact ⟨(hw.list l hl).1, (hw.list l hl).2.trans_le hh.next_le⟩

lemma Within.of_le {high a : ℕ} (hw : h.Within low high a) : h.Within 0 high a :=
  ⟨Nat.zero_le a, hw.lt, fun l hl => ⟨Nat.zero_le l, (hw.list l hl).2⟩⟩

lemma IsNew.grows {item : Item} (hh : Grows h h') (hnew : h.IsNew low item) : h'.IsNew low item :=
  fun a ha => (hnew a ha).grows hh

/-- What stands at old addresses is read as before. -/
lemma Grows.read_eq {k : Kept} (hh : Grows h h') (hw : h.Within low h.next k.address) :
    h'.read k = h.read k := by
  have hrule := hh.rule_eq _ hw.lt
  have hlists : h'.exclusions (h.rule k.address).exclusions =
      h.exclusions (h.rule k.address).exclusions := by
    cases he : (h.rule k.address).exclusions with
    | list l => rw [exclusions, exclusions, hh.list_eq l (hw.list l he).2]
    | tuple items => rfl
    | foreign v => rfl
  simp only [read, hrule, hlists]

lemma KeepsAs.grows {r : Rule Severity} {k : Kept} (hh : Grows h h') (hk : h.KeepsAs low r k) :
    h'.KeepsAs low r k :=
  ⟨hk.own.grows hh, (hh.read_eq hk.own).trans hk.read_eq⟩

lemma keepsAs_keep (r : Rule Severity) (h : Heap) (hlow : low ≤ h.next) :
    ((keep r).run h).2.KeepsAs low r ((keep r).run h).1 := by
  have haddress : ((keep r).run h).1 = ⟨r.id, h.next + 1⟩ := rfl
  have hnext : ((keep r).run h).2.next = h.next + 2 := rfl
  have hrule : ((keep r).run h).2.rule (h.next + 1) = ⟨.str r.id, r.description,
      .level r.severity, r.matcher, .list h.next, r.recommendation⟩ := if_pos rfl
  have hlist : ((keep r).run h).2.list h.next = r.exclusions := if_pos rfl
  rw [haddress]
  refine ⟨⟨Nat.le_succ_of_le hlow, hnext ▸ Nat.lt_succ_self _, fun l hl => ?_⟩, ?_⟩
  · rw [hrule] at hl
    obtain rfl := ExclusionsRef.list.inj hl
    omega
  · simp only [read, hrule, exclusions, hlist, Exclusions.items]
    rfl

lemma list_addExclusions {xs : Exclusions} {l : ℕ} (hlow : low ≤ h.next)
    (hl : ((addExclusions xs).run h).1 = .list l) :
    low ≤ l ∧ l < ((addExclusions xs).run h).2.next := by
  cases xs with
  | list items =>
    have hle := Matcher.freshEach_le items h.next
    obtain rfl := ExclusionsRef.list.inj hl
    exact ⟨hlow.trans hle, Nat.lt_succ_self _⟩
  | tuple items => cases hl
  | foreign v => cases hl

lemma isNew_addEntry (e : Entry) (h : Heap) (hlow : low ≤ h.next) :
    ((addEntry e).run h).2.IsNew low ((addEntry e).run h).1 := by
  cases e with
  | foreign v => exact fun a ha => nomatch ha
  | draft d =>
    intro a ha
    -- the heap after new marks for the matcher, and after the exclusions
    set h₁ := ((marked d.matcher.fresh).run h).2 with hh₁
    set h₂ := ((addExclusions d.exclusions).run h₁).2 with hh₂
    have hlow₁ : low ≤ h₁.next := hlow.trans (d.matcher.fresh_le h.next)
    have hlow₂ : low ≤ h₂.next := hlow₁.trans (onlyAdds_addExclusions d.exclusions h₁).next_le
    obtain rfl : h₂.next = a := Item.rule.inj ha
    have hrule : (((addEntry (.draft d)).run h).2.rule h₂.next).exclusions =
      ((addExclusions d.exclusions).run h₁).1 := congrArg RuleObject.exclusions (if_pos rfl)
    refine ⟨hlow₂, Nat.lt_succ_self _, fun l hl => ?_⟩
    have hbounds := list_addExclusions hlow₁ (hrule.symm.trans hl)
    exact ⟨hbounds.1, hbounds.2.trans (Nat.lt_succ_self _)⟩

/-! ### Loading -/

lemma run_load {items : List Item} {kept : List Kept} (hload : h.load items = .ok (kept, h')) :
    ∃ registry, Registry.load (items.map h.entry) = .ok registry ∧ Grows h h' ∧
      List.Forall₂ (h'.KeepsAs h.next) registry.rules kept := by
  unfold load at hload
  split at hload
  next registry hregistry =>
    have hrun := Except.ok.inj hload
    obtain ⟨rfl, rfl⟩ := Prod.mk.inj hrun
    refine ⟨registry, hregistry, onlyAdds_mapM onlyAdds_keep _ h, ?_⟩
    exact forall₂_mapM (P := fun heap => heap.KeepsAs h.next) onlyAdds_keep KeepsAs.grows
      keepsAs_keep _ h (Nat.le_refl _)
  next => cases hload

/-- The registry that is loaded has the rules that are made of the items. -/
lemma registry_of_keepsAs {registry : Registry Severity} {kept : List Kept}
    (hkept : List.Forall₂ (h.KeepsAs low) registry.rules kept) :
    h.registry kept = registry.marked := by
  obtain ⟨rules⟩ := registry
  have hrules : kept.map h.read = rules.map fun r => r.withSeverity (.level r.severity) := by
    change List.Forall₂ (h.KeepsAs low) rules kept at hkept
    induction hkept with
    | nil => rfl
    | cons hk _ ih => rw [List.map_cons, List.map_cons, hk.read_eq, ih]
  rw [Heap.registry, hrules, Registry.marked]

/-! ### Edits -/

/-- The heap after an edit. An edit that is refused changes nothing. -/
def perform (h : Heap) (e : ObjectEdit) : Heap := (h.edit? e).getD h

def after (h : Heap) (edits : List ObjectEdit) : Heap := edits.foldl perform h

lemma perform_of_edit? {e : ObjectEdit} (he : h.edit? e = some h') : h.perform e = h' := by
  rw [perform, he, Option.getD_some]

lemma after_concat (h : Heap) (edits : List ObjectEdit) (e : ObjectEdit) :
    h.after (edits ++ [e]) = (h.after edits).perform e := by
  rw [after, List.foldl_append]
  rfl

/-- An edit of a field changes the object at its address, up to the list of exclusions, or appends
to this list, or is refused. -/
lemma perform_field_cases (h : Heap) (address : ℕ) (e : FieldEdit) :
    (∃ f : RuleObject → RuleObject, (∀ o, (f o).exclusions = o.exclusions) ∧
      h.perform (.field address e) = h.editRule address f) ∨
    (∃ l m, (h.rule address).exclusions = .list l ∧
      h.perform (.field address e) = h.append l m) ∨
    h.perform (.field address e) = h := by
  cases e with
  | severity v => exact .inl ⟨fun o => { o with severity := .raw v }, fun _ => rfl, rfl⟩
  | matcher m => exact .inl ⟨fun o => { o with matcher := m }, fun _ => rfl, rfl⟩
  | exclusion m =>
    rw [perform, edit?]
    cases (h.rule address).exclusions with
    | list l => exact .inr (.inl ⟨l, m, rfl, rfl⟩)
    | tuple | foreign => exact .inr (.inr rfl)

/-- No edit adds an object, or gives a rule another list. -/
lemma perform_frame (h : Heap) (e : ObjectEdit) :
    (h.perform e).next = h.next ∧
      ∀ a l, ((h.perform e).rule a).exclusions = .list l ↔ (h.rule a).exclusions = .list l := by
  cases e with
  | node mark e =>
    refine ⟨rfl, fun a l => ?_⟩
    change (h.rule a).exclusions.editAt mark e = .list l ↔ _
    cases (h.rule a).exclusions <;> simp [ExclusionsRef.editAt]
  | field address e =>
    rcases h.perform_field_cases address e with ⟨f, hf, he⟩ | ⟨l, m, -, he⟩ | he
    · rw [he]
      refine ⟨rfl, fun a l => ?_⟩
      by_cases ha : a = address <;> simp [editRule, ha, hf]
    · rw [he]
      exact ⟨rfl, fun _ _ => Iff.rfl⟩
    · rw [he]
      exact ⟨rfl, fun _ _ => Iff.rfl⟩

lemma Within.perform {high a : ℕ} (hw : h.Within low high a) (e : ObjectEdit) :
    (h.perform e).Within low high a :=
  ⟨hw.le, hw.lt, fun l hl => hw.list l (((h.perform_frame e).2 a l).mp hl)⟩

/-- An edit of a field does not reach objects at higher addresses. -/
lemma read_perform_field {high address : ℕ} {k : Kept} (hw : h.Within 0 low address)
    (hk : h.Within low high k.address) (e : FieldEdit) :
    (h.perform (.field address e)).read k = h.read k := by
  rcases h.perform_field_cases address e with ⟨f, -, he⟩ | ⟨l, m, hl, he⟩ | he
  · have hne : k.address ≠ address := (hw.lt.trans_le hk.le).ne'
    rw [he]
    simp only [read, editRule, if_neg hne]
    rfl
  · have hlists : (h.append l m).exclusions (h.rule k.address).exclusions =
        h.exclusions (h.rule k.address).exclusions := by
      cases hx : (h.rule k.address).exclusions with
      | list l' =>
        have hne : l' ≠ l := ((hw.list l hl).2.trans_le (hk.list l' hx).1).ne'
        simp [exclusions, append, hne]
      | tuple items => rfl
      | foreign v => rfl
    rw [he]
    exact congrArg (Rule.mk _ _ _ _ · _) (congrArg Exclusions.items hlists)
  · rw [he]

/-- An edit of a matcher reaches every rule that a registry keeps. -/
lemma read_perform_node (h : Heap) (mark : ℕ) (e : NodeEdit) (k : Kept) :
    (h.perform (.node mark e)).read k = (h.read k).editAt mark e := by
  have hlists : ((h.perform (.node mark e)).exclusions
        ((h.rule k.address).exclusions.editAt mark e)).items =
      Matcher.editEachAt mark e (h.exclusions (h.rule k.address).exclusions).items := by
    cases (h.rule k.address).exclusions <;> rfl
  exact congrArg (Rule.mk _ _ _ _ · _) hlists

end Heap

end LineAudit
