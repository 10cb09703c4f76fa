import LineAudit.Proofs.Registry
import LineAudit.Proofs.Scan.Exact

/-!
Rules that are dropped from a scan.

The rules that are left move to other places, in their old order, and are put to the same lines as
before. What is found is the same up to these places, so that the sort does not tell the difference.
Main result: dropping rules drops what they found and changes nothing else.
-/

namespace LineAudit

variable {σ α : Type}

namespace Placed

/-- The same found by a rule at another place. -/
def moved (g : ℕ → ℕ) (x : Placed α) : Placed α := { x with position := g x.position }

lemma le_moved {g : ℕ → ℕ} (hg : StrictMono g) (x y : Placed α) :
    (x.moved g).le (y.moved g) = x.le y := by
  rw [le_eq_decide, le_eq_decide, decide_eq_decide]
  simp only [key, moved, Prod.Lex.toLex_le_toLex, hg.le_iff_le]

/-- A sort goes by the order of the places alone. -/
lemma sorted_map_moved {g : ℕ → ℕ} (hg : StrictMono g) (l : List (Placed α)) :
    sorted (l.map (moved g)) = sorted l := by
  have h := List.map_mergeSort (r := le) (s := le) (f := moved g) (l := l)
    fun x _ y _ => (le_moved hg x y).symm
  rw [sorted, ← h, List.map_map]
  rfl

lemma sorted_filter (p : α → Bool) (l : List (Placed α)) :
    sorted (l.filter fun x => p x.item) = (sorted l).filter p := by
  rw [sorted, sorted, mergeSort_filter trans total, List.filter_map]
  rfl

end Placed

namespace FileScan

/-- The visit of a rule at another place. -/
def Visit.moved (g : ℕ → ℕ) (v : Visit σ) : Visit σ := { v with position := g v.position }

section Filter

variable {p : Rule σ → Bool} {g : ℕ → ℕ} {rules : List (Rule σ)}
  (hg : rules.zipIdx.filter (fun q => p q.1) = (rules.filter p).zipIdx.map fun q => (q.1, g q.2))

include hg

lemma visitsOf_filter (isBroken : Rule σ → Bool) (number : ℕ) (line : String) :
    (visitsOf (fun q => isBroken q.1) number line rules.zipIdx).filter (fun v => p v.rule) =
      (visitsOf (fun q => isBroken q.1) number line (rules.filter p).zipIdx).map
        (Visit.moved g) := by
  simp only [visitsOf, List.filter_map, List.map_map, List.filter_filter, Function.comp_def]
  simp only [Bool.and_comm (p _)]
  rw [← List.filter_filter, hg, List.filter_map, List.map_map]
  rfl

/-- The visits of the rules that are left are those made before, but for the places of the rules. -/
lemma visitsFrom_filter (before rest : List String) :
    (visitsFrom rules before rest).filter (fun v => p v.rule) =
      (visitsFrom (rules.filter p) before rest).map (Visit.moved g) := by
  induction rest generalizing before with
  | nil => rfl
  | cons line rest ih =>
    have hline := visitsOf_filter hg (fun r => r.breaksIn before) (before.length + 1) line
    rw [visitsFrom, visitsFrom, List.filter_append, List.map_append, hline, ih]

end Filter

end FileScan

open FileScan

/-- What comes of a visit tells the id of the rule, and the place of the rule does not matter. -/
structure TellsRule (pick : String → Visit σ → Option (Placed α)) (idOf : α → String) : Prop where
  id : ∀ path v x, pick path v = some x → idOf x.item = v.rule.id
  moved : ∀ path (g : ℕ → ℕ) v, pick path (v.moved g) = (pick path v).map (Placed.moved g)

lemma tellsRule_hit : TellsRule (Visit.hit? (σ := σ)) Finding.ruleId where
  id := by
    intro path v x hx
    obtain ⟨-, rfl⟩ := Visit.hit?_eq_some_iff.mp hx
    rfl
  moved := by
    intro path g v
    unfold Visit.hit?
    simp only [Visit.moved]
    split <;> rfl

lemma tellsRule_error : TellsRule (Visit.error? (σ := σ)) EvaluationError.ruleId where
  id := by
    intro path v x hx
    obtain ⟨c, -, rfl⟩ := Visit.error?_eq_some_iff.mp hx
    rfl
  moved := by
    intro path g v
    unfold Visit.error?
    simp only [Visit.moved]
    split <;> rfl

section Dropped

variable {pick : String → Visit σ → Option (Placed α)} {idOf : α → String}
  (hpick : TellsRule pick idOf) (keep : String → Bool) (rules : List (Rule σ))
  (files : List SourceFile)

include hpick

/-- What the rules that are left find in a file is told by the ids of the rules. -/
lemma filterMap_visits_filter {g : ℕ → ℕ}
    (hg : rules.zipIdx.filter (fun q => keep q.1.id) =
      (rules.filter fun r => keep r.id).zipIdx.map fun q => (q.1, g q.2)) (f : SourceFile) :
    ((visits rules f).filterMap (pick f.path)).filter (fun x => keep (idOf x.item)) =
      ((visits (rules.filter fun r => keep r.id) f).filterMap (pick f.path)).map
        (Placed.moved g) := by
  have hvisits : (visits rules f).filter (fun v => keep v.rule.id) =
      (visits (rules.filter fun r => keep r.id) f).map (Visit.moved g) :=
    visitsFrom_filter (p := fun r => keep r.id) hg [] f.lines
  have hkeep : ∀ v ∈ visits rules f, (pick f.path v).filter (fun x => keep (idOf x.item)) =
      if keep v.rule.id then pick f.path v else none := by
    intro v _
    cases h : pick f.path v with
    | none => simp
    | some x => rw [Option.filter_some, hpick.id _ _ _ h]
  calc ((visits rules f).filterMap (pick f.path)).filter (fun x => keep (idOf x.item))
      = ((visits rules f).filter fun v => keep v.rule.id).filterMap (pick f.path) := by
        rw [List.filter_filterMap, List.filterMap_filter]
        exact List.filterMap_congr hkeep
    _ = (visits (rules.filter fun r => keep r.id) f).filterMap
          fun v => (pick f.path v).map (Placed.moved g) := by
        rw [hvisits, List.filterMap_map]
        exact List.filterMap_congr fun v _ => hpick.moved f.path g v
    _ = ((visits (rules.filter fun r => keep r.id) f).filterMap (pick f.path)).map
          (Placed.moved g) := List.map_filterMap.symm

lemma picked_filter {g : ℕ → ℕ}
    (hg : rules.zipIdx.filter (fun q => keep q.1.id) =
      (rules.filter fun r => keep r.id).zipIdx.map fun q => (q.1, g q.2)) :
    (picked pick rules files).flatten.filter (fun x => keep (idOf x.item)) =
      (picked pick (rules.filter fun r => keep r.id) files).flatten.map (Placed.moved g) := by
  rw [picked, picked, List.filter_flatten, List.map_flatten, List.map_map, List.map_map]
  congr 1
  exact List.map_congr_left fun f _ => filterMap_visits_filter hpick keep rules hg f

/-- **What is left of what is found is what the rules that are left find.** -/
lemma sorted_picked_filter :
    Placed.sorted (picked pick (rules.filter fun r => keep r.id) files).flatten =
      (Placed.sorted (picked pick rules files).flatten).filter fun x => keep (idOf x) := by
  obtain ⟨g, hg, hplaces⟩ := exists_zipIdx_filter (fun r : Rule σ => keep r.id) rules
  rw [← Placed.sorted_filter, picked_filter hpick keep rules files hplaces,
    Placed.sorted_map_moved hg]

end Dropped

/-! ### Registries -/

/-- The part of a result that is about the rules with some ids. -/
def ScanResult.about (r : ScanResult σ) (ids : List String) : ScanResult σ :=
  ⟨r.findings.filter fun x => x.ruleId ∈ ids, r.errors.filter fun x => x.ruleId ∈ ids⟩

lemma Engine.found_filter (ids : List String) (rules : List (Rule σ)) (files : List SourceFile) :
    found (rules.filter fun r => r.id ∈ ids) files = (found rules files).about ids := by
  have hfindings := sorted_picked_filter tellsRule_hit (fun id => decide (id ∈ ids)) rules files
  have herrors := sorted_picked_filter tellsRule_error (fun id => decide (id ∈ ids)) rules files
  rw [← findings_found, ← findings_found] at hfindings
  rw [← errors_found, ← errors_found] at herrors
  rw [ScanResult.about, ← hfindings, ← herrors]

namespace Registry

/-- A part of what a registry is made of makes a registry with a part of its rules. -/
lemma load_of_sublist {entries part : List Entry} {registry : Registry Severity}
    (h : load entries = .ok registry) (hpart : part.Sublist entries) :
    ∃ kept, load part = .ok kept ∧ kept.rules.Sublist registry.rules := by
  obtain ⟨hmakes, hnd⟩ := load_eq_ok_iff.mp h
  obtain ⟨rules, hsub, hkept⟩ := exists_sublist_of_forall₂ hmakes hpart
  exact ⟨⟨rules⟩, load_eq_ok_iff.mpr ⟨hkept, (hsub.map Rule.id).nodup hnd⟩, hsub⟩

/-- Some rules of a registry find what the registry finds for their ids. -/
lemma found_of_sublist {registry kept : Registry Severity} (hnd : registry.ids.Nodup)
    (hsub : kept.rules.Sublist registry.rules) (files : List SourceFile) :
    Engine.found kept.rules files = (Engine.found registry.rules files).about kept.ids := by
  rw [← Engine.found_filter, ids, ← eq_filter_of_sublist hsub hnd]

/-- **Rules do not interfere.** Some of the entries that make a registry make a registry too, and
scans with it report what scans with the whole one report for its rules, in the same order. So what
is reported for these rules does not depend on the other ones, with all their exclusions and
failures. -/
theorem scanIn_independent {entries part : List Entry} {registry : Registry Severity}
    (h : load entries = .ok registry) (hpart : part.Sublist entries) :
    ∃ kept, load part = .ok kept ∧ kept.rules.Sublist registry.rules ∧
      (∀ (e : Engine) (files : List SourceFile) (order order' : List ℕ),
        order.Perm (List.range files.length) → order'.Perm (List.range files.length) →
          ∀ result, e.scanIn order registry.rules files = .ok result →
            e.scanIn order' kept.rules files = .ok (result.about kept.ids)) ∧
      ∀ (entries' : List Entry) (registry' : Registry Severity), load entries' = .ok registry' →
        part.Sublist entries' → ∀ (e : Engine) (files : List SourceFile) (order order' : List ℕ),
          order.Perm (List.range files.length) → order'.Perm (List.range files.length) →
            ∀ result result', e.scanIn order registry.rules files = .ok result →
              e.scanIn order' registry'.rules files = .ok result' →
                result.about kept.ids = result'.about kept.ids := by
  obtain ⟨kept, hkept, hsub⟩ := load_of_sublist h hpart
  have hfound := found_of_sublist (load_eq_ok_iff.mp h).2 hsub
  refine ⟨kept, hkept, hsub, ?_, ?_⟩
  · intro e files order order' horder horder' result hresult
    obtain ⟨hlimits, rfl⟩ := (e.scanIn_eq_ok_iff registry.rules horder result).mp hresult
    exact (e.scanIn_eq_ok_iff kept.rules horder' _).mpr ⟨hlimits, hfound files⟩
  · intro entries' registry' h' hpart' e files order order' horder horder' result result' hr hr'
    obtain ⟨-, rfl⟩ := (e.scanIn_eq_ok_iff registry.rules horder result).mp hr
    obtain ⟨-, rfl⟩ := (e.scanIn_eq_ok_iff registry'.rules horder' result').mp hr'
    obtain ⟨kept', hkept', hsub'⟩ := load_of_sublist h' hpart'
    obtain rfl := Except.ok.inj (hkept.symm.trans hkept')
    rw [← hfound, ← found_of_sublist (load_eq_ok_iff.mp h').2 hsub']

/-- The regular expression that looks for a `y`. -/
def lookForY : Regex :=
  match Regex.make (.str "y") false with
  | .ok r => r
  | .error _ => ⟨.null, false, .error .notText, rfl⟩

/-- A rule that fails on every line with an `x`, between two that do not fail. -/
def threeRules (r : Regex) : List Entry :=
  let entry (id : String) (m : Matcher) (exclusions : List Matcher) : Entry :=
    .draft ⟨.str id, .null, .level .low, m, .list exclusions, .null⟩
  [entry "A" (.literal 0 (.str "x")) [.literal 0 (.str "/")],
    entry "B" (.alarmed 0 "x" (.raised "RuntimeError" "") r) [],
    entry "C" (.literal 0 (.str "/")) []]

theorem scanIn_independent_threeRules :
    let rules := threeRules lookForY
    let findings : List (Finding Severity) :=
      [⟨"A", .low, "b", 1, "x"⟩, ⟨"A", .low, "b", 1, "x"⟩, ⟨"C", .low, "b", 2, "/x"⟩]
    let failure : EvaluationError := ⟨"B", "b", 1, .raised "RuntimeError" ""⟩
    [rules[0], rules[2]].Sublist rules ∧ ∃ registry kept,
      load rules = .ok registry ∧ load [rules[0], rules[2]] = .ok kept ∧
        Engine.unlimited.scanIn [1, 0] registry.rules twins = .ok ⟨findings, [failure, failure]⟩ ∧
        Engine.unlimited.scanIn [0, 1] kept.rules twins = .ok ⟨findings, []⟩ := by
  intro rules findings failure
  have hload : load rules = .ok ⟨rules.filterMap Entry.rule?⟩ := rfl
  have hscan (r : Regex) :
      Engine.unlimited.scanIn [1, 0] ((threeRules r).filterMap Entry.rule?) twins =
        .ok ⟨findings, [failure, failure]⟩ := by cbv
  have hpart : [rules[0], rules[2]].Sublist rules := .cons_cons _ (.cons _ (.cons_cons _ .slnil))
  obtain ⟨kept, hkept, -, hall, -⟩ := scanIn_independent hload hpart
  have hids : kept.ids = ["A", "C"] := by
    have hrules : load [rules[0], rules[2]] = .ok ⟨[rules[0], rules[2]].filterMap Entry.rule?⟩ :=
      rfl
    obtain rfl := Except.ok.inj (hkept.symm.trans hrules)
    rfl
  have hresult := hall Engine.unlimited twins [1, 0] [0, 1] (by decide) (by decide) _
    (hscan lookForY)
  rw [hids] at hresult
  exact ⟨hpart, _, kept, hload, hkept, hscan lookForY, hresult⟩

end Registry

end LineAudit
