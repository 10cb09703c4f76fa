import LineAudit.Proofs.Scan.Engine
import LineAudit.Proofs.Scan.Sites
import LineAudit.Proofs.Scan.Visits
import Mathlib.Data.List.Permutation

/-!
What a scan reports, said without the scan.

A rule is reported on the lines on which it matches before the first line on which it fails; on that
line its failure is reported. Main result: a scan lists each of these sites once and nothing else.
-/

namespace LineAudit

/-- The line of a file with a number, counted from one. -/
def SourceFile.line? (f : SourceFile) : ℕ → Option String
  | 0 => none
  | n + 1 => f.lines[n]?

lemma SourceFile.bounds_of_line? {f : SourceFile} {n : ℕ} {line : String}
    (h : f.line? n = some line) : 1 ≤ n ∧ n ≤ f.lines.length := by
  cases n with
  | zero => simp [line?] at h
  | succ n =>
    obtain ⟨hn, -⟩ := List.getElem?_eq_some_iff.mp h
    omega

variable {σ : Type}

namespace Rule

variable (r : Rule σ) (f : SourceFile)

/-- A rule fails on line `n` of a file. -/
def FailsAt (n : ℕ) (c : Failure) : Prop := ∃ line, f.line? n = some line ∧ r.FailsOn line c

/-- Line `n` is the first one of a file on which a rule fails. -/
def BreaksAt (n : ℕ) (c : Failure) : Prop := r.FailsAt f n c ∧ ∀ m < n, ∀ d, ¬ r.FailsAt f m d

/-- A rule matches on line `n` of a file, which comes before the first one on which it fails. -/
def ReportsAt (n : ℕ) (line : String) : Prop :=
  f.line? n = some line ∧ r.Matches line ∧ ∀ m c, r.BreaksAt f m c → n < m

variable {r f}

lemma breaksAt_unique {m n : ℕ} {c d : Failure} (h : r.BreaksAt f m c) (h' : r.BreaksAt f n d) :
    m = n := by
  have h1 : ¬ m < n := fun hlt => h'.2 m hlt c h.1
  have h2 : ¬ n < m := fun hlt => h.2 n hlt d h'.1
  omega

/-- A line comes before the first one on which a rule fails when the rule does not fail up to it. -/
lemma before_breaks_iff {n : ℕ} :
    (∀ m c, r.BreaksAt f m c → n < m) ↔ ∀ m ≤ n, ∀ c, ¬ r.FailsAt f m c := by
  constructor
  · intro h m hm
    induction m using Nat.strong_induction_on with
    | _ m ih =>
      intro c hc
      have := h m c ⟨hc, fun k hk => ih k hk (by omega)⟩
      omega
  · intro h m c hb
    by_contra hlt
    exact h m (by omega) c hb.1

lemma reportsAt_iff {n : ℕ} {line : String} (hl : f.line? n = some line) :
    r.ReportsAt f n line ↔ (∀ m < n, ∀ c, ¬ r.FailsAt f m c) ∧ r.fires line = .ok true := by
  have hhere : ∀ c, r.FailsAt f n c ↔ r.FailsOn line c := by
    intro c
    simp [FailsAt, hl]
  rw [ReportsAt, before_breaks_iff]
  constructor
  · rintro ⟨-, hm, hb⟩
    refine ⟨fun m hlt => hb m (by omega), (fires_iff_matches fun c hc => ?_).mpr hm⟩
    exact hb n le_rfl c ((hhere c).mpr hc)
  · rintro ⟨hb, hf⟩
    have hno : ∀ c, ¬ r.FailsOn line c := by
      intro c hc
      rw [← fires_eq_error_iff, hf] at hc
      simp at hc
    refine ⟨hl, (fires_iff_matches hno).mp hf, fun m hm c => ?_⟩
    rcases Nat.lt_or_eq_of_le hm with hlt | rfl
    · exact hb m hlt c
    · exact fun hc => hno c ((hhere c).mp hc)

lemma breaksAt_iff {n : ℕ} {line : String} {c : Failure} (hl : f.line? n = some line) :
    r.BreaksAt f n c ↔ (∀ m < n, ∀ c, ¬ r.FailsAt f m c) ∧ r.fires line = .error c := by
  rw [BreaksAt, fires_eq_error_iff, and_comm]
  simp [FailsAt, hl]

lemma breaksIn_take_iff {k : ℕ} :
    r.breaksIn (f.lines.take k) = false ↔ ∀ m ≤ k, ∀ c, ¬ r.FailsAt f m c := by
  have hfails : ∀ line, (r.fires line).isOk = true ↔ ∀ c, ¬ r.FailsOn line c := by
    intro line
    simp only [← fires_eq_error_iff]
    cases r.fires line <;> simp [Except.isOk, Except.toBool]
  simp only [breaksIn, List.any_eq_false, Bool.not_eq_true, Bool.not_eq_false', hfails]
  constructor
  · rintro h m hm c ⟨line, hl, hf⟩
    cases m with
    | zero => simp [SourceFile.line?] at hl
    | succ m =>
      refine h line (List.mem_iff_getElem?.mpr ⟨m, ?_⟩) c hf
      rw [List.getElem?_take_of_lt (by omega)]
      exact hl
  · rintro h line hmem c hf
    obtain ⟨m, hm, rfl⟩ := List.mem_take_iff_getElem.mp hmem
    exact h (m + 1) (by omega) c ⟨_, List.getElem?_eq_getElem (by omega), hf⟩

end Rule

/-! ### Sites -/

/-- A rule is reported at a site with a finding. -/
def Reported (rules : List (Rule σ)) (files : List SourceFile) (s : Site) (x : Finding σ) : Prop :=
  ∃ f r line, files[s.file]? = some f ∧ rules[s.rule]? = some r ∧ r.ReportsAt f s.line line ∧
    x = ⟨r.id, r.severity, f.path, s.line, Text.strip line⟩

/-- A rule fails at a site, for the first time in the file. -/
def Failed (rules : List (Rule σ)) (files : List SourceFile) (s : Site) (x : EvaluationError) :
    Prop :=
  ∃ f r c, files[s.file]? = some f ∧ rules[s.rule]? = some r ∧ r.BreaksAt f s.line c ∧
    x = ⟨r.id, f.path, s.line, c⟩

open FileScan

/-- What comes of a visit lies where the visit was made. -/
def KeepsPlace {α : Type} (pick : String → Visit σ → Option (Placed α)) : Prop :=
  ∀ path v x, pick path v = some x → x.file = path ∧ x.line = v.number ∧ x.position = v.position

/-- What comes of the visits to each of several files. -/
def picked {α : Type} (pick : String → Visit σ → Option (Placed α)) (rules : List (Rule σ))
    (files : List SourceFile) : List (List (Placed α)) :=
  files.map fun f => (visits rules f).filterMap (pick f.path)

section Picked

variable {α : Type} {pick : String → Visit σ → Option (Placed α)} (hpick : KeepsPlace pick)
  (rules : List (Rule σ)) (files : List SourceFile)

include hpick

lemma picked_gathered : Gathered files (picked pick rules files) where
  file := by
    intro i xs hxs x hx
    rw [picked, List.getElem?_map] at hxs
    obtain ⟨f, hf, rfl⟩ := Option.map_eq_some_iff.mp hxs
    obtain ⟨v, -, hv⟩ := List.mem_filterMap.mp hx
    rw [hf, (hpick _ _ _ hv).1]
    rfl
  order := by
    intro xs hxs
    obtain ⟨f, -, rfl⟩ := List.mem_map.mp hxs
    refine List.pairwise_filterMap.mpr ((visits_pairwise rules f).imp ?_)
    rintro v w hvw x hx y hy
    obtain ⟨-, hxl, hxp⟩ := hpick _ _ _ hx
    obtain ⟨-, hyl, hyp⟩ := hpick _ _ _ hy
    rw [hxl, hxp, hyl, hyp]
    exact hvw

lemma foundAt_picked_iff {s : Site} {item : α} :
    FoundAt (picked pick rules files) s item ↔ ∃ f r line, files[s.file]? = some f ∧
      rules[s.rule]? = some r ∧ f.line? s.line = some line ∧
      (∀ m < s.line, ∀ c, ¬ r.FailsAt f m c) ∧
      ∃ x, pick f.path ⟨s.line, line, s.rule, r⟩ = some x ∧ x.item = item := by
  constructor
  · rintro ⟨xs, hxs, x, hx, hn, hp, hi⟩
    rw [picked, List.getElem?_map] at hxs
    obtain ⟨f, hf, rfl⟩ := Option.map_eq_some_iff.mp hxs
    obtain ⟨v, hv, hvx⟩ := List.mem_filterMap.mp hx
    obtain ⟨-, hxn, hxp⟩ := hpick _ _ _ hvx
    obtain ⟨k, hk, hl, hr, hb⟩ := mem_visits.mp hv
    have hline : s.line = k + 1 := by omega
    have hvisit : (⟨s.line, v.line, s.rule, v.rule⟩ : Visit σ) = v := by
      rw [← hn, ← hp, hxn, hxp]
    refine ⟨f, v.rule, v.line, hf, by rw [← hp, hxp]; exact hr, by rw [hline]; exact hl, ?_, x,
      ?_, hi⟩
    · intro m hm
      exact Rule.breaksIn_take_iff.mp hb m (by omega)
    · rw [hvisit]
      exact hvx
  · rintro ⟨f, r, line, hf, hr, hl, hb, x, hx, hi⟩
    obtain ⟨-, hxn, hxp⟩ := hpick _ _ _ hx
    refine ⟨_, by rw [picked, List.getElem?_map, hf]; rfl, x, ?_, hxn, hxp, hi⟩
    refine List.mem_filterMap.mpr ⟨_, mem_visits.mpr ?_, hx⟩
    obtain ⟨k, hk⟩ := Nat.exists_eq_add_of_le' (SourceFile.bounds_of_line? hl).1
    refine ⟨k, hk, by rw [hk] at hl; exact hl, hr, Rule.breaksIn_take_iff.mpr fun m hm => ?_⟩
    exact hb m (by omega)

end Picked

lemma keepsPlace_hit : KeepsPlace (Visit.hit? (σ := σ)) := by
  intro path v x hx
  obtain ⟨-, rfl⟩ := Visit.hit?_eq_some_iff.mp hx
  exact ⟨rfl, rfl, rfl⟩

lemma keepsPlace_error : KeepsPlace (Visit.error? (σ := σ)) := by
  intro path v x hx
  obtain ⟨c, -, rfl⟩ := Visit.error?_eq_some_iff.mp hx
  exact ⟨rfl, rfl, rfl⟩

lemma foundAt_hits_iff {rules : List (Rule σ)} {files : List SourceFile} {s : Site}
    {x : Finding σ} : FoundAt (picked Visit.hit? rules files) s x ↔ Reported rules files s x := by
  rw [foundAt_picked_iff keepsPlace_hit]
  constructor
  · rintro ⟨f, r, line, hf, hr, hl, hb, y, hy, rfl⟩
    obtain ⟨hfires, rfl⟩ := Visit.hit?_eq_some_iff.mp hy
    exact ⟨f, r, line, hf, hr, (Rule.reportsAt_iff hl).mpr ⟨hb, hfires⟩, rfl⟩
  · rintro ⟨f, r, line, hf, hr, hrep, rfl⟩
    obtain ⟨hb, hfires⟩ := (Rule.reportsAt_iff hrep.1).mp hrep
    exact ⟨f, r, line, hf, hr, hrep.1, hb, _, Visit.hit?_eq_some_iff.mpr ⟨hfires, rfl⟩, rfl⟩

lemma foundAt_errors_iff {rules : List (Rule σ)} {files : List SourceFile} {s : Site}
    {x : EvaluationError} :
    FoundAt (picked Visit.error? rules files) s x ↔ Failed rules files s x := by
  rw [foundAt_picked_iff keepsPlace_error]
  constructor
  · rintro ⟨f, r, line, hf, hr, hl, hb, y, hy, rfl⟩
    obtain ⟨c, hfires, rfl⟩ := Visit.error?_eq_some_iff.mp hy
    exact ⟨f, r, c, hf, hr, (Rule.breaksAt_iff hl).mpr ⟨hb, hfires⟩, rfl⟩
  · rintro ⟨f, r, c, hf, hr, hbreaks, rfl⟩
    obtain ⟨line, hl, -⟩ := hbreaks.1
    obtain ⟨hb, hfires⟩ := (Rule.breaksAt_iff hl).mp hbreaks
    exact ⟨f, r, line, hf, hr, hl, hb, _, Visit.error?_eq_some_iff.mpr ⟨c, hfires, rfl⟩, rfl⟩

/-! ### Results -/

lemma findings_found (rules : List (Rule σ)) (files : List SourceFile) :
    (Engine.found rules files).findings =
      Placed.sorted (picked Visit.hit? rules files).flatten := by
  unfold Engine.found Engine.merge picked
  simp only [List.flatMap_def, List.map_map]
  congr 3
  exact funext fun f => (run_yields rules f).1

lemma errors_found (rules : List (Rule σ)) (files : List SourceFile) :
    (Engine.found rules files).errors =
      Placed.sorted (picked Visit.error? rules files).flatten := by
  unfold Engine.found Engine.merge picked
  simp only [List.flatMap_def, List.map_map]
  congr 3
  exact funext fun f => (run_yields rules f).2

lemma Engine.mem_findings_iff {rules : List (Rule σ)} {files : List SourceFile} {x : Finding σ} :
    x ∈ (found rules files).findings ↔ ∃ s, Reported rules files s x := by
  simp only [findings_found, mem_sorted_flatten_iff, foundAt_hits_iff]

/-- A finding has the id and the severity of one rule. -/
lemma Engine.rule_of_finding {rules : List (Rule σ)} {files : List SourceFile} {x : Finding σ}
    (hx : x ∈ (found rules files).findings) :
    ∃ r ∈ rules, r.id = x.ruleId ∧ r.severity = x.severity := by
  obtain ⟨s, f, r, line, -, hr, -, rfl⟩ := mem_findings_iff.mp hx
  exact ⟨r, List.mem_of_getElem? hr, rfl, rfl⟩

/-- The findings of a scan, listed by their sites in order. -/
lemma findings_sites (rules : List (Rule σ)) (files : List SourceFile) :
    ∃ sites, Enumerates (Reported rules files) sites (Engine.found rules files).findings ∧
      Ordered files sites := by
  have hgathered := picked_gathered keepsPlace_hit rules files
  have hat : FoundAt (picked Visit.hit? rules files) = Reported rules files :=
    funext fun s => funext fun x => propext foundAt_hits_iff
  exact ⟨_, hat ▸ findings_found rules files ▸ hgathered.enumerates, hgathered.ordered⟩

/-- The errors of a scan, listed by their sites in order. -/
lemma errors_sites (rules : List (Rule σ)) (files : List SourceFile) :
    ∃ sites, Enumerates (Failed rules files) sites (Engine.found rules files).errors ∧
      Ordered files sites := by
  have hgathered := picked_gathered keepsPlace_error rules files
  have hat : FoundAt (picked Visit.error? rules files) = Failed rules files :=
    funext fun s => funext fun x => propext foundAt_errors_iff
  exact ⟨_, hat ▸ errors_found rules files ▸ hgathered.enumerates, hgathered.ordered⟩

lemma Reported.bounds {rules : List (Rule σ)} {files : List SourceFile} {s : Site} {x : Finding σ}
    (h : Reported rules files s x) :
    ∃ f ∈ files, x.file = f.path ∧ 1 ≤ x.line ∧ x.line ≤ f.lines.length := by
  obtain ⟨f, r, line, hf, -, hrep, rfl⟩ := h
  exact ⟨f, List.mem_of_getElem? hf, rfl, SourceFile.bounds_of_line? hrep.1⟩

lemma Failed.bounds {rules : List (Rule σ)} {files : List SourceFile} {s : Site}
    {x : EvaluationError} (h : Failed rules files s x) :
    ∃ f ∈ files, x.file = f.path ∧ 1 ≤ x.line ∧ x.line ≤ f.lines.length := by
  obtain ⟨f, r, c, hf, -, ⟨⟨line, hl, -⟩, -⟩, rfl⟩ := h
  exact ⟨f, List.mem_of_getElem? hf, rfl, SourceFile.bounds_of_line? hl⟩

lemma Failed.site_eq {rules : List (Rule σ)} {files : List SourceFile} {s t : Site}
    {x y : EvaluationError} (h : Failed rules files s x) (h' : Failed rules files t y)
    (hfile : s.file = t.file) (hrule : s.rule = t.rule) : s = t := by
  obtain ⟨f, r, c, hf, hr, hb, -⟩ := h
  obtain ⟨f', r', c', hf', hr', hb', -⟩ := h'
  rw [hfile, hf'] at hf
  rw [hrule, hr'] at hr
  obtain rfl := Option.some.inj hf
  obtain rfl := Option.some.inj hr
  exact Site.ext hfile (Rule.breaksAt_unique hb hb') hrule

lemma Enumerates.mem_items {α : Type} {At : Site → α → Prop} {sites : List Site} {items : List α}
    (h : Enumerates At sites items) {x : α} (hx : x ∈ items) : ∃ s, At s x := by
  obtain ⟨i, hi, rfl⟩ := List.mem_iff_getElem.mp hx
  have hlen := h.items.length_eq
  exact ⟨_, h.items.get (by omega) hi⟩

/-- **A scan is exact.** Every line on which a rule matches before it fails for the first time in a
file gives one finding, every first failure gives one error, and nothing else is reported. This
holds for any number of workers, in whatever order the scans of files complete. -/
theorem Engine.scanIn_exact (e : Engine) (rules : List (Rule σ)) {files : List SourceFile}
    {order : List ℕ} {result : ScanResult σ} (horder : order.Perm (List.range files.length))
    (h : e.scanIn order rules files = .ok result) :
    (∃ sites, Enumerates (Reported rules files) sites result.findings) ∧
    (∃ sites, Enumerates (Failed rules files) sites result.errors ∧
      (sites.map fun s => (s.file, s.rule)).Nodup) ∧
    (∀ x ∈ result.findings,
      ∃ f ∈ files, x.file = f.path ∧ 1 ≤ x.line ∧ x.line ≤ f.lines.length) ∧
    (∀ x ∈ result.errors,
      ∃ f ∈ files, x.file = f.path ∧ 1 ≤ x.line ∧ x.line ≤ f.lines.length) := by
  obtain ⟨-, rfl⟩ := (scanIn_eq_ok_iff e rules horder result).mp h
  obtain ⟨sites, hsites, -⟩ := findings_sites rules files
  obtain ⟨breaks, hbreaks, -⟩ := errors_sites rules files
  refine ⟨⟨sites, hsites⟩, ⟨breaks, hbreaks, ?_⟩, fun x hx => ?_, fun x hx => ?_⟩
  · refine List.Nodup.map_on (fun s hs t ht heq => ?_) hbreaks.nodup
    obtain ⟨x, hx⟩ := (hbreaks.complete s).mp hs
    obtain ⟨y, hy⟩ := (hbreaks.complete t).mp ht
    exact hx.site_eq hy (Prod.mk.inj heq).1 (Prod.mk.inj heq).2
  · obtain ⟨s, hs⟩ := hsites.mem_items hx
    exact hs.bounds
  · obtain ⟨s, hs⟩ := hbreaks.mem_items hx
    exact hs.bounds

/-- A rule with an exclusion, and a rule that fails on every line without an exclamation mark. -/
def soundAndBroken : List (Rule Severity) :=
  [⟨"A", .null, .high, .literal 0 (.str "x"), [.literal 0 (.str "/")], .null⟩,
    ⟨"B", .null, .low, .any 0 [.literal 0 (.str "!"), .literal 0 (.int 5)], [], .null⟩]

/-- Two files with one path, in which the second rule fails on the first line already. -/
def twins : List SourceFile := [⟨"b", ["x", "/x"]⟩, ⟨"b", [" x"]⟩]

theorem Engine.scanIn_exact_twins :
    let findings : List (Finding Severity) := [⟨"A", .high, "b", 1, "x"⟩, ⟨"A", .high, "b", 1, "x"⟩]
    let errors : List EvaluationError :=
      [⟨"B", "b", 1, .literalNotText "int"⟩, ⟨"B", "b", 1, .literalNotText "int"⟩]
    Engine.unlimited.scanIn [1, 0] soundAndBroken twins = .ok ⟨findings, errors⟩ ∧
      (∃ sites, Enumerates (Reported soundAndBroken twins) sites findings) ∧
      ∃ sites, Enumerates (Failed soundAndBroken twins) sites errors := by
  intro findings errors
  have h : Engine.unlimited.scanIn [1, 0] soundAndBroken twins = .ok ⟨findings, errors⟩ := by cbv
  have hall := scanIn_exact Engine.unlimited soundAndBroken (by decide) h
  obtain ⟨sites, hsites, -⟩ := hall.2.1
  exact ⟨h, hall.1, sites, hsites⟩

end LineAudit
