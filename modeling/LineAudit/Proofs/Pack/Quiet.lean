import LineAudit.Proofs.Pack.Accept
import LineAudit.Proofs.Scan.Exact

/-!
Scans with the rules of an accepted pack.

Main result: they report no failure of a rule, because every matcher that is built from an accepted
pack answers on every line.
-/

namespace LineAudit

variable {σ : Type}

/-- All matchers of a rule answer on every line. -/
def Rule.Answers (r : Rule σ) : Prop :=
  ∀ m ∈ r.matcher :: r.exclusions, ∀ line, ∃ b, m.test line = .ok b

lemma Rule.Answers.not_failsOn {r : Rule σ} (h : r.Answers) (line : String) (c : Failure) :
    ¬ r.FailsOn line c := by
  have hall : ∀ m ∈ r.matcher :: r.exclusions, m.test line ≠ .error c := by
    intro m hm herror
    obtain ⟨b, hb⟩ := h m hm line
    simp [hb] at herror
  rintro (hm | ⟨before, after, x, -, he, -, hx⟩)
  · exact hall r.matcher (by simp) hm
  · exact hall x (by simp [he]) hx

lemma Engine.errors_eq_nil {rules : List (Rule σ)} (h : ∀ r ∈ rules, r.Answers)
    (files : List SourceFile) : (found rules files).errors = [] := by
  obtain ⟨sites, hsites, -⟩ := errors_sites rules files
  refine List.eq_nil_iff_forall_not_mem.mpr fun x hx => ?_
  obtain ⟨s, f, r, c, -, hr, ⟨⟨line, -, hfails⟩, -⟩, -⟩ := hsites.mem_items hx
  exact (h r (List.mem_of_getElem? hr)).not_failsOn line c hfails

lemma Rule.Answers.reportsAt_iff {r : Rule σ} (h : r.Answers) {f : SourceFile} {n : ℕ}
    {line : String} : r.ReportsAt f n line ↔ f.line? n = some line ∧ r.Matches line := by
  refine and_congr_right fun _ => and_iff_left fun m c hbreaks => ?_
  obtain ⟨line, -, hfails⟩ := hbreaks.1
  exact absurd hfails (h.not_failsOn line c)

/-- Rules that always answer are reported on exactly the lines on which they match. -/
lemma Engine.mem_findings_iff_matches {rules : List (Rule σ)} (h : ∀ r ∈ rules, r.Answers)
    {files : List SourceFile} {x : Finding σ} :
    x ∈ (found rules files).findings ↔ ∃ f ∈ files, ∃ r ∈ rules, ∃ n line,
      f.line? n = some line ∧ r.Matches line ∧
        x = ⟨r.id, r.severity, f.path, n, Text.strip line⟩ := by
  rw [mem_findings_iff]
  constructor
  · rintro ⟨s, f, r, line, hf, hr, hreports, rfl⟩
    have hr := List.mem_of_getElem? hr
    obtain ⟨hl, hm⟩ := (h r hr).reportsAt_iff.mp hreports
    exact ⟨f, List.mem_of_getElem? hf, r, hr, s.line, line, hl, hm, rfl⟩
  · rintro ⟨f, hf, r, hr, n, line, hl, hm, rfl⟩
    obtain ⟨i, hi⟩ := List.mem_iff_getElem?.mp hf
    obtain ⟨k, hk⟩ := List.mem_iff_getElem?.mp hr
    exact ⟨⟨i, n, k⟩, f, r, line, hi, hk, (h r hr).reportsAt_iff.mpr ⟨hl, hm⟩, rfl⟩

namespace Pack

lemma answers_of_accepted {v : Value} {registry : Registry Severity}
    (h : ofValue v = .ok registry) : ∀ r ∈ registry.rules, r.Answers := by
  obtain ⟨rules, -, hall, -⟩ := rules_of_accepted h
  have husable := forall_right_of_forall₂ hall fun e r her => her.2.2.2
  exact fun r hr m hm line => (husable r hr m hm).answers line

/-- **An accepted rule pack never fails.** Every matcher of its rules says yes or no on every line,
so that a scan within the limits succeeds without an error and without a warning. -/
theorem scan_quiet {text : String} {registry : Registry Severity}
    (h : ofText text = .ok registry) :
    (∀ r ∈ registry.rules, r.Answers) ∧
      ∀ (e : Engine) (files : List SourceFile) (order : List ℕ),
        order.Perm (List.range files.length) → e.Admits files →
          ∃ result, e.scanIn order registry.rules files = .ok result ∧ result.errors = [] ∧
            result.warnings = [] := by
  obtain ⟨v, -, hof⟩ := read_of_ofText h
  have hanswers := answers_of_accepted hof
  refine ⟨hanswers, fun e files order horder hlimits => ?_⟩
  have herrors := Engine.errors_eq_nil hanswers files
  refine ⟨Engine.found registry.rules files, ?_, herrors, ?_⟩
  · exact (Engine.scanIn_eq_ok_iff e registry.rules horder _).mpr ⟨hlimits, rfl⟩
  · rw [ScanResult.warnings, herrors, List.map_nil]

theorem scan_quiet_smallPack : ∃ registry, ofText smallPack = .ok registry ∧
    registry.ids = ["A"] ∧ (∀ r ∈ registry.rules, r.Answers) ∧
      ∃ result, Engine.unlimited.scanIn [1, 0] registry.rules [⟨"a", ["xz"]⟩, ⟨"b", ["", "yy"]⟩] =
        .ok result ∧ result.errors = [] ∧ result.warnings = [] := by
  obtain ⟨registry, hof, hids⟩ := smallPack_accepted
  have hall := scan_quiet hof
  have hlimits : Engine.unlimited.Admits [⟨"a", ["xz"]⟩, ⟨"b", ["", "yy"]⟩] :=
    ⟨by simp [Engine.unlimited], rfl, .inl rfl⟩
  exact ⟨registry, hof, hids, hall.1, hall.2 _ _ [1, 0] (by decide) hlimits⟩

end Pack

end LineAudit
