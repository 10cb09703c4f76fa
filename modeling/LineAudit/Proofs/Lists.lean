import Mathlib.Algebra.Ring.Nat
import Mathlib.Data.List.Forall2
import Mathlib.Data.List.Nodup
import Mathlib.Order.Monotone.Basic
import Mathlib.Tactic.Common

/-!
Lists: stable sorting, numbered items, lists of which the items are related one by one, and the
digits of a number.
-/

namespace LineAudit

variable {α β γ : Type}

/-- A stable sort leaves elements in their order that are all equal in order. -/
lemma filter_mergeSort {le : α → α → Bool} (trans : ∀ a b c, le a b → le b c → le a c)
    (total : ∀ a b, le a b || le b a) {p : α → Bool} (hp : ∀ a b, p a → p b → le a b)
    (l : List α) : (l.mergeSort le).filter p = l.filter p := by
  have hpair : (l.filter p).Pairwise fun a b => le a b := by
    refine List.pairwise_of_forall_mem_list fun a ha b hb => ?_
    exact hp a b (List.mem_filter.mp ha).2 (List.mem_filter.mp hb).2
  have hsub := (List.sublist_mergeSort trans total hpair List.filter_sublist).filter p
  simp only [List.filter_filter, Bool.and_self] at hsub
  exact (hsub.eq_of_length ((List.mergeSort_perm l le).filter p).length_eq.symm).symm

/-- A list splits in one way only into items with a property and items without it. -/
lemma append_inj_of_separated {p : α → Bool} {as bs cs ds : List α} (h : as ++ bs = cs ++ ds)
    (has : ∀ x ∈ as, p x = true) (hbs : ∀ x ∈ bs, p x = false)
    (hcs : ∀ x ∈ cs, p x = true) (hds : ∀ x ∈ ds, p x = false) : as = cs ∧ bs = ds := by
  have hfilter := congrArg (List.filter p) h
  rw [List.filter_append, List.filter_append, List.filter_eq_self.mpr has,
    List.filter_eq_self.mpr hcs, List.filter_eq_nil_iff.mpr (by simpa using hbs),
    List.filter_eq_nil_iff.mpr (by simpa using hds), List.append_nil, List.append_nil] at hfilter
  subst hfilter
  exact ⟨rfl, List.append_cancel_left h⟩

/-- A list splits in one way at the first place where an item stands. -/
lemma append_cons_inj_of_first {a : α} {as bs cs ds : List α} (h : as ++ a :: bs = cs ++ a :: ds)
    (has : a ∉ as) (hcs : a ∉ cs) : as = cs ∧ bs = ds := by
  induction as generalizing cs with
  | nil =>
    cases cs with
    | nil => exact ⟨rfl, (List.cons.inj h).2⟩
    | cons c cs => exact absurd (List.cons.inj h).1 (List.ne_of_not_mem_cons hcs)
  | cons b as ih =>
    cases cs with
    | nil => exact absurd (List.cons.inj h).1.symm (List.ne_of_not_mem_cons has)
    | cons c cs =>
      obtain ⟨rfl, hrest⟩ := List.cons.inj h
      obtain ⟨rfl, hsame⟩ :=
        ih hrest (List.not_mem_of_not_mem_cons has) (List.not_mem_of_not_mem_cons hcs)
      exact ⟨rfl, hsame⟩

/-- A stable sort may come before or after a selection. -/
lemma mergeSort_filter {le : α → α → Bool} (trans : ∀ a b c, le a b → le b c → le a c)
    (total : ∀ a b, le a b || le b a) (p : α → Bool) (l : List α) :
    (l.filter p).mergeSort le = (l.mergeSort le).filter p := by
  -- what follows an item in a sorted list is not before it in order
  have hafter {a : α} {l l₁ l₂ : List α} (h : l.mergeSort le = l₁ ++ a :: l₂) :
      ∀ b ∈ l₂, (!le a b) = false := by
    have hsort := List.pairwise_mergeSort trans total l
    rw [h, List.pairwise_append, List.pairwise_cons] at hsort
    intro b hb
    rw [hsort.2.1.1 b hb]
    rfl
  induction l with
  | nil => simp
  | cons a rest ih =>
    obtain ⟨l₁, l₂, hsort, hrest, hbefore⟩ := List.mergeSort_cons trans total a rest
    by_cases ha : p a = true
    · obtain ⟨m₁, m₂, hsort', hrest', hbefore'⟩ :=
        List.mergeSort_cons trans total a (rest.filter p)
      have hsame : m₁ ++ m₂ = l₁.filter p ++ l₂.filter p := by
        rw [← hrest', ih, hrest, List.filter_append]
      obtain ⟨rfl, rfl⟩ := append_inj_of_separated hsame hbefore' (hafter hsort')
        (fun b hb => hbefore b (List.mem_of_mem_filter hb))
        (fun b hb => hafter hsort b (List.mem_of_mem_filter hb))
      rw [List.filter_cons_of_pos ha, hsort', hsort, List.filter_append,
        List.filter_cons_of_pos ha]
    · rw [List.filter_cons_of_neg ha, ih, hrest, hsort, List.filter_append, List.filter_append,
        List.filter_cons_of_neg ha]

/-- Counting adds one for each item that is counted. -/
lemma countP_eq_sum (p : α → Bool) (l : List α) :
    l.countP p = (l.map fun a => if p a then 1 else 0).sum := by
  induction l with
  | nil => rfl
  | cons a rest ih => rw [List.countP_cons, ih, List.map_cons, List.sum_cons, Nat.add_comm]

/-- Nothing is lost with groups that have no items. -/
lemma flatMap_nonempty (groups : List (α × List β)) :
    (groups.filter fun g => !g.2.isEmpty).flatMap Prod.snd = groups.flatMap Prod.snd := by
  induction groups with
  | nil => rfl
  | cons g rest ih =>
    obtain ⟨a, bs⟩ := g
    cases bs with
    | nil => simpa using ih
    | cons b bs => simpa using ih

/-! ### Numbered items -/

lemma zipIdx_pairwise (l : List α) (n : ℕ) : (l.zipIdx n).Pairwise fun a b => a.2 < b.2 := by
  have h : ((l.zipIdx n).map Prod.snd).Pairwise (· < ·) := by
    rw [List.zipIdx_map_snd]
    exact List.pairwise_lt_range'
  exact List.pairwise_map.mp h

/-- New places of the items after a first one that keeps its place. -/
def placesAfterFirst (g : ℕ → ℕ) : ℕ → ℕ
  | 0 => 0
  | k + 1 => g k + 1

lemma strictMono_placesAfterFirst {g : ℕ → ℕ} (hg : StrictMono g) :
    StrictMono (placesAfterFirst g) := by
  refine strictMono_nat_of_lt_succ fun k => ?_
  cases k with
  | zero => exact Nat.succ_pos _
  | succ k => exact Nat.succ_lt_succ (hg (Nat.lt_succ_self k))

/-- The items that a selection keeps stay in their order when they get new places. -/
lemma exists_zipIdx_filter (p : α → Bool) (l : List α) :
    ∃ g : ℕ → ℕ, StrictMono g ∧
      l.zipIdx.filter (fun q => p q.1) = (l.filter p).zipIdx.map fun q => (q.1, g q.2) := by
  induction l with
  | nil => exact ⟨id, strictMono_id, rfl⟩
  | cons a rest ih =>
    obtain ⟨g, hg, hrest⟩ := ih
    have hshift : (rest.zipIdx (0 + 1)).filter (fun q => p q.1) =
        (rest.filter p).zipIdx.map fun q => (q.1, g q.2 + 1) := by
      rw [List.zipIdx_succ, List.filter_map, Function.comp_def, hrest, List.map_map]
      rfl
    by_cases ha : p a = true
    · refine ⟨placesAfterFirst g, strictMono_placesAfterFirst hg, ?_⟩
      rw [List.zipIdx_cons, List.filter_cons_of_pos (by exact ha), hshift,
        List.filter_cons_of_pos ha, List.zipIdx_cons, List.map_cons, List.zipIdx_succ, List.map_map]
      rfl
    · refine ⟨fun k => g k + 1, fun j k hjk => Nat.succ_lt_succ (hg hjk), ?_⟩
      rw [List.zipIdx_cons, List.filter_cons_of_neg (by exact ha), hshift,
        List.filter_cons_of_neg ha]

/-- When no two items have one key, a part of a list is what its keys select. -/
lemma eq_filter_of_sublist [DecidableEq β] {f : α → β} {part l : List α} (h : part.Sublist l)
    (hnd : (l.map f).Nodup) : part = l.filter fun x => f x ∈ part.map f := by
  induction h with
  | slnil => rfl
  | @cons part rest a hsub ih =>
    rw [List.map_cons, List.nodup_cons] at hnd
    have ha : f a ∉ part.map f := fun hmem => hnd.1 ((hsub.map f).subset hmem)
    rw [List.filter_cons_of_neg (by simpa using ha)]
    exact ih hnd.2
  | @cons_cons part rest a hsub ih =>
    rw [List.map_cons, List.nodup_cons] at hnd
    rw [List.filter_cons_of_pos (by simp)]
    congr 1
    refine (ih hnd.2).trans (List.filter_congr fun x hx => ?_)
    have hne : f x ≠ f a := fun he => hnd.1 (he ▸ List.mem_map_of_mem hx)
    simp [hne]

/-! ### Lists related item by item -/

/-- Items of which each is related to something are related to a list. -/
lemma exists_forall₂ {R : α → β → Prop} {as : List α} (h : ∀ a ∈ as, ∃ b, R a b) :
    ∃ bs, List.Forall₂ R as bs := by
  induction as with
  | nil => exact ⟨[], .nil⟩
  | cons a rest ih =>
    obtain ⟨b, hb⟩ := h a (by simp)
    obtain ⟨bs, hbs⟩ := ih fun x hx => h x (by simp [hx])
    exact ⟨b :: bs, .cons hb hbs⟩

lemma forall_right_of_forall₂ {R : α → β → Prop} {P : β → Prop} {as : List α} {bs : List β}
    (h : List.Forall₂ R as bs) (hP : ∀ a b, R a b → P b) : ∀ b ∈ bs, P b := by
  induction h with
  | nil => simp
  | cons hab _ ih =>
    intro b hb
    rcases List.mem_cons.mp hb with rfl | hb
    · exact hP _ _ hab
    · exact ih b hb

lemma forall_left_of_forall₂ {R : α → β → Prop} {P : α → Prop} {as : List α} {bs : List β}
    (h : List.Forall₂ R as bs) (hP : ∀ a b, R a b → P a) : ∀ a ∈ as, P a :=
  forall_right_of_forall₂ (List.Forall₂.flip h) fun b a hab => hP a b hab

lemma exists_mem_of_forall₂ {R : α → β → Prop} {as : List α} {bs : List β}
    (h : List.Forall₂ R as bs) : ∀ a ∈ as, ∃ b ∈ bs, R a b := by
  induction h with
  | nil => simp
  | cons hab _ ih =>
    refine List.forall_mem_cons.mpr ⟨⟨_, List.mem_cons_self, hab⟩, fun a ha => ?_⟩
    obtain ⟨b, hb, h⟩ := ih a ha
    exact ⟨b, List.mem_cons_of_mem _ hb, h⟩

/-- What a part of a list is related to is the same part of what the list is related to. -/
lemma exists_sublist_of_forall₂ {R : α → β → Prop} {as part : List α} {bs : List β}
    (h : List.Forall₂ R as bs) (hsub : part.Sublist as) :
    ∃ part', part'.Sublist bs ∧ List.Forall₂ R part part' := by
  induction hsub generalizing bs with
  | slnil => exact ⟨[], List.nil_sublist bs, .nil⟩
  | cons a _ ih =>
    obtain ⟨b, rest, -, hrest, rfl⟩ := List.forall₂_cons_left_iff.mp h
    obtain ⟨part', hsub', hrel⟩ := ih hrest
    exact ⟨part', hsub'.cons b, hrel⟩
  | cons_cons a _ ih =>
    obtain ⟨b, rest, hab, hrest, rfl⟩ := List.forall₂_cons_left_iff.mp h
    obtain ⟨part', hsub', hrel⟩ := ih hrest
    exact ⟨b :: part', hsub'.cons_cons b, .cons hab hrel⟩

/-- Lists are related through a list in between when their items are related through items. -/
lemma forall₂_comp_iff {R : α → β → Prop} {S : β → γ → Prop} {as : List α} {cs : List γ} :
    (∃ bs, List.Forall₂ R as bs ∧ List.Forall₂ S bs cs) ↔
      List.Forall₂ (fun a c => ∃ b, R a b ∧ S b c) as cs := by
  constructor
  · rintro ⟨bs, hab, hbc⟩
    induction hab generalizing cs with
    | nil =>
      rw [List.forall₂_nil_left_iff.mp hbc]
      exact .nil
    | cons hR _ ih =>
      obtain ⟨c, rest, hS, hrest, rfl⟩ := List.forall₂_cons_left_iff.mp hbc
      exact .cons ⟨_, hR, hS⟩ (ih hrest)
  · intro h
    induction h with
    | nil => exact ⟨[], .nil, .nil⟩
    | cons hac _ ih =>
      obtain ⟨b, hR, hS⟩ := hac
      obtain ⟨bs, hab, hbc⟩ := ih
      exact ⟨b :: bs, .cons hR hab, .cons hS hbc⟩

/-- What is no digit does not stand in a number. -/
lemma not_mem_toDigits {c : Char} (h : c.isDigit = false) (n : ℕ) : c ∉ Nat.toDigits 10 n := by
  intro hmem
  have hdigit := Nat.isDigit_of_mem_toDigits (by omega) (by omega) hmem
  simp [h] at hdigit

end LineAudit
