import LineAudit.Proofs.Matcher.Occurrence
import LineAudit.Proofs.Pack.Bundled
import LineAudit.Proofs.Pack.Quiet

/-!
What scans with the bundled rules report.

A rule that looks for texts is the same as one that looks for them in the line without the white
space at its ends, since none of the texts holds white space. So what is reported on a line can be
told from its snippet alone. Main result: nothing is reported on comment lines, and on all other
lines four of the rules are reported exactly when certain texts occur.
-/

namespace LineAudit

/-! ### What matchers look for -/

namespace Matcher

/-- A matcher matches exactly the lines with a property. -/
def Decides (m : Matcher) (p : String → Prop) : Prop := ∀ line, m.test line = .ok true ↔ p line

lemma testAny_literals_iff (texts : List String) (line : String) :
    testAny (texts.map fun needle => .literal 0 (.str needle)) line = .ok true ↔
      ∃ needle ∈ texts, Occurs needle line := by
  induction texts with
  | nil => simp [testAny]
  | cons needle rest ih =>
    rw [List.map_cons, testAny, test, List.exists_mem_cons_iff, ← contains_iff]
    cases contains line needle with
    | false => simpa using ih
    | true => simp

end Matcher

namespace Spec

lemma Mirrors.eq_literal {needle : String} {m : Matcher} (h : Mirrors (.str needle) m) :
    m = .literal 0 (.str needle) := by
  cases h with
  | text => rfl

lemma Mirrors.decides_text {needle : String} {m : Matcher} (h : Mirrors (.str needle) m) :
    m.Decides (Occurs needle) := by
  intro line
  rw [h.eq_literal, Matcher.test, Except.ok.injEq, contains_iff]

lemma mirrors_texts {texts : List String} {ms : List Matcher}
    (h : List.Forall₂ Mirrors (texts.map .str) ms) :
    (texts.map fun needle => .literal 0 (.str needle)) = ms := by
  rw [← List.forall₂_eq_eq_eq, List.forall₂_map_left_iff]
  exact (List.forall₂_map_left_iff.mp h).imp fun _ _ hm => hm.eq_literal.symm

end Spec

namespace Pack

lemma decides_anyOf {texts : List String} {m : Matcher} (h : Spec.Mirrors (anyOf texts) m) :
    m.Decides fun line => ∃ needle ∈ texts, Occurs needle line := by
  cases h with
  | literal hv => simp [field?_single_of_ne (show "literal" ≠ "any" by decide)] at hv
  | regex hp => simp [field?_single_of_ne (show "regex" ≠ "any" by decide)] at hp
  | joint joint hitems hall =>
    cases joint with
    | all => simp [Joint.key, field?_single_of_ne (show "all" ≠ "any" by decide)] at hitems
    | any =>
      rw [Joint.key, field?_single, Option.some.injEq, Value.list.injEq] at hitems
      subst hitems
      obtain rfl := Spec.mirrors_texts hall
      exact Matcher.testAny_literals_iff texts

lemma decides_comment {m : Matcher} (h : Spec.Mirrors commentSpec m) :
    m.Decides fun line => StartsComment (Text.strip line) := by
  have hfield (key : String) (hkey : key ≠ "regex") :
      Value.field? key [(.str "regex", .str commentPattern)] = none := field?_single_of_ne hkey _
  cases h with
  | literal hv => simp [hfield "literal" (by decide)] at hv
  | joint joint hitems => cases joint <;> simp [Joint.key, hfield] at hitems
  | @regex _ r hp hi =>
    rw [field?_single, Option.some.injEq] at hp
    have hcase : r.ignoreCase = false := by
      simp [hi, Spec.ignoresCase, Value.fieldD, hfield "ignore_case" (by decide), Value.isTrue]
    have hread := readRegex_eq_program_iff.mpr
      ⟨commentPattern, rfl, by decide, compile_commentPattern⟩
    rw [hp, ← hcase] at hread
    have hprogram : r.program = .ok commentProgram :=
      Except.ok.inj (r.read_eq.symm.trans hread)
    intro line
    rw [Matcher.test, Regex.test, Regex.search, hprogram, Except.ok.injEq,
      commentProgram_search_iff]

/-! ### Where the bundled rules match -/

section Rule

variable {id description severity recommendation : String} {pattern : Value} {others : List String}
  {r : Rule Severity}

lemma Stands.matches_iff {p : String → Prop}
    (h : Stands (bundledRule id description severity pattern others recommendation) r)
    (hp : r.matcher.Decides p) (line : String) :
    r.Matches line ↔ p line ∧ ¬ StartsComment (Text.strip line) ∧
      ∀ needle ∈ others, ¬ Occurs needle line := by
  obtain ⟨specs, hspecs, hall⟩ := h.exclusions
  obtain rfl : commentSpec :: others.map .str = specs := Option.some.inj hspecs
  obtain ⟨m, ms, hcomment, hothers, hexclusions⟩ := List.forall₂_cons_left_iff.mp hall
  obtain rfl := Spec.mirrors_texts hothers
  rw [Rule.Matches, hexclusions, List.forall_mem_cons, List.forall_mem_map, hp line, Ne,
    decides_comment hcomment line]
  simp [Matcher.test, contains_iff]

/-- A text that is searched for: it is not empty and holds no white space. -/
def Needle (text : String) : Prop := text.toList ≠ [] ∧ Text.Solid text.toList

instance (text : String) : Decidable (Needle text) :=
  inferInstanceAs (Decidable (_ ∧ _))

/-- One of some texts occurs in a line and none of some others does. -/
def Finds (texts others : List String) (line : String) : Prop :=
  (∃ needle ∈ texts, Occurs needle line) ∧ ∀ needle ∈ others, ¬ Occurs needle line

lemma finds_strip_iff {texts others : List String} (h : ∀ text ∈ texts ++ others, Needle text)
    (line : String) : Finds texts others (Text.strip line) ↔ Finds texts others line := by
  have hoccurs : ∀ text ∈ texts ++ others, Occurs text (Text.strip line) ↔ Occurs text line :=
    fun text ht => occurs_strip_iff (h text ht).1 (h text ht).2 line
  refine and_congr (exists_congr fun text => and_congr_right fun ht => ?_)
    (forall₂_congr fun text ht => not_congr ?_)
  · exact hoccurs text (List.mem_append_left _ ht)
  · exact hoccurs text (List.mem_append_right _ ht)

/-- Whether a rule that looks for texts matches a line shows in the snippet of the line. -/
lemma Stands.matches_iff_snippet {texts : List String}
    (h : Stands (bundledRule id description severity pattern others recommendation) r)
    (hp : r.matcher.Decides fun line => ∃ needle ∈ texts, Occurs needle line)
    (hneedles : ∀ text ∈ texts ++ others, Needle text) (line : String) :
    r.Matches line ↔ Finds texts others (Text.strip line) ∧ ¬ StartsComment (Text.strip line) := by
  rw [h.matches_iff hp, finds_strip_iff hneedles, and_comm (a := ¬ _), ← and_assoc]
  rfl

end Rule

/-! ### What is reported -/

/-- A rule is reported on a line of a file. -/
def ReportedOn (result : ScanResult Severity) (id : String) (f : SourceFile) (n : ℕ)
    (line : String) : Prop :=
  ∃ x ∈ result.findings, x.ruleId = id ∧ x.file = f.path ∧ x.line = n ∧
    x.snippet = Text.strip line

section Scan

variable {registry : Registry Severity} (hids : registry.ids.Nodup)
  (hanswers : ∀ r ∈ registry.rules, r.Answers) {files : List SourceFile}

include hids hanswers

/-- A rule whose matches show in the snippet is reported on the lines with the right snippet. Files
may have one path: what is found in one of them then has the snippet that stands in the other. -/
lemma reportedOn_iff {r : Rule Severity} (hr : r ∈ registry.rules) {p : String → Prop}
    (hp : ∀ line, r.Matches line ↔ p (Text.strip line)) {f : SourceFile} (hf : f ∈ files) {n : ℕ}
    {line : String} (hl : f.line? n = some line) :
    ReportedOn (Engine.found registry.rules files) r.id f n line ↔ p (Text.strip line) := by
  constructor
  · rintro ⟨x, hx, hid, -, -, hsnippet⟩
    obtain ⟨g, -, r', hr', m, other, -, hm, rfl⟩ := (Engine.mem_findings_iff_matches hanswers).mp hx
    obtain rfl : r' = r := List.inj_on_of_nodup_map hids hr' hr hid
    rw [← hsnippet]
    exact (hp other).mp hm
  · intro h
    refine ⟨⟨r.id, r.severity, f.path, n, Text.strip line⟩, ?_, rfl, rfl, rfl, rfl⟩
    exact (Engine.mem_findings_iff_matches hanswers).mpr
      ⟨f, hf, r, hr, n, line, hl, (hp line).mpr h, rfl⟩

variable (hstands : List.Forall₂ Stands bundledRules registry.rules)

include hstands

/-- A bundled rule that looks for texts is reported on the lines, comment lines aside, in which they
occur. -/
lemma reportedOn_iff_finds {id description severity recommendation : String} {pattern : Value}
    {texts others : List String}
    (hrule : bundledRule id description severity pattern others recommendation ∈ bundledRules)
    (hpattern : ∀ m, Spec.Mirrors pattern m →
      m.Decides fun line => ∃ needle ∈ texts, Occurs needle line)
    (hneedles : ∀ text ∈ texts ++ others, Needle text) {f : SourceFile} (hf : f ∈ files) {n : ℕ}
    {line : String} (hl : f.line? n = some line) (hcode : ¬ StartsComment (Text.strip line)) :
    ReportedOn (Engine.found registry.rules files) id f n line ↔ Finds texts others line := by
  obtain ⟨r, hr, h⟩ := exists_mem_of_forall₂ hstands _ hrule
  obtain rfl : r.id = id := h.id
  have hmatches := h.matches_iff_snippet (hpattern r.matcher h.matcher) hneedles
  have hreported := reportedOn_iff hids hanswers hr
    (p := fun snippet => Finds texts others snippet ∧ ¬ StartsComment snippet) hmatches hf hl
  rw [hreported, finds_strip_iff hneedles]
  exact and_iff_left hcode

end Scan

/-- Every rule of the bundled pack leaves out comment lines. -/
lemma not_startsComment_of_stands {e : List (Value × Value)} (he : e ∈ bundledRules)
    {r : Rule Severity} (h : Stands e r) {line : String} (hm : r.Matches line) :
    ¬ StartsComment (Text.strip line) := by
  have hform : ∃ id description severity pattern others recommendation,
      e = bundledRule id description severity pattern others recommendation := by
    simp only [bundledRules, List.mem_cons, List.not_mem_nil, or_false] at he
    rcases he with rfl | rfl | rfl | rfl | rfl | rfl <;> exact ⟨_, _, _, _, _, _, rfl⟩
  obtain ⟨id, description, severity, pattern, others, recommendation, rfl⟩ := hform
  exact ((h.matches_iff (fun _ => Iff.rfl) line).mp hm).2.1

/-- **What the bundled rules report.** The bundled pack is accepted, and scans with its rules never
fail: every scan within the limits has a result, without an error. Nothing is reported on comment
lines, and on all other lines four of the rules are reported exactly when the texts occur that they
look for. -/
theorem bundled_reports : ∃ registry, bundled = .ok registry ∧
    ∀ (e : Engine) (files : List SourceFile) (order : List ℕ),
      order.Perm (List.range files.length) →
        (e.Admits files → ∃ result, e.scanIn order registry.rules files = .ok result) ∧
        ∀ result, e.scanIn order registry.rules files = .ok result →
          result.errors = [] ∧ (∀ x ∈ result.findings, ¬ StartsComment x.snippet) ∧
          ∀ f ∈ files, ∀ n line, f.line? n = some line → ¬ StartsComment (Text.strip line) →
            (ReportedOn result "SC01" f n line ↔ Occurs "tx.origin" line) ∧
            (ReportedOn result "SC05" f n line ↔ Occurs ".call\x7b" line) ∧
            (ReportedOn result "SC06" f n line ↔
              (Occurs ".call\x7b" line ∨ Occurs ".call(" line ∨ Occurs ".send(" line) ∧
                ¬ Occurs "bool" line ∧ ¬ Occurs "success" line) ∧
            (ReportedOn result "DC01" f n line ↔ Occurs "delegatecall" line) := by
  obtain ⟨registry, hbundled, hids, husable, hstands⟩ := bundled_accepted
  have hanswers : ∀ r ∈ registry.rules, r.Answers :=
    fun r hr m hm line => (husable r hr m hm).answers line
  refine ⟨registry, hbundled, fun e files order horder => ⟨fun hlimits => ?_, ?_⟩⟩
  · exact ⟨_, (Engine.scanIn_eq_ok_iff e registry.rules horder _).mpr ⟨hlimits, rfl⟩⟩
  intro result hresult
  obtain ⟨-, rfl⟩ := (Engine.scanIn_eq_ok_iff e registry.rules horder result).mp hresult
  refine ⟨Engine.errors_eq_nil hanswers files, fun x hx => ?_, fun f hf n line hl hcode => ?_⟩
  · obtain ⟨f, -, r, hr, n, line, -, hm, rfl⟩ := (Engine.mem_findings_iff_matches hanswers).mp hx
    obtain ⟨e, he, h⟩ := exists_mem_of_forall₂ hstands.flip r hr
    exact not_startsComment_of_stands he h hm
  · have htext {needle : String} (m : Matcher) (h : Spec.Mirrors (.str needle) m) :
        m.Decides fun line => ∃ s ∈ [needle], Occurs s line := by
      simpa using h.decides_text
    have hsc01 : ReportedOn _ "SC01" f n line ↔ Finds ["tx.origin"] [] line :=
      reportedOn_iff_finds hids hanswers hstands (.head _) htext (by decide) hf hl hcode
    have hsc05 : ReportedOn _ "SC05" f n line ↔ Finds [".call\x7b"] [] line :=
      reportedOn_iff_finds hids hanswers hstands (.tail _ (.head _)) htext (by decide) hf hl hcode
    have hsc06 : ReportedOn _ "SC06" f n line ↔
        Finds [".call\x7b", ".call(", ".send("] ["bool", "success"] line :=
      reportedOn_iff_finds hids hanswers hstands (.tail _ (.tail _ (.head _)))
        (fun _ => decides_anyOf) (by decide) hf hl hcode
    have hdc01 : ReportedOn _ "DC01" f n line ↔ Finds ["delegatecall"] [] line :=
      reportedOn_iff_finds hids hanswers hstands
        (.tail _ (.tail _ (.tail _ (.tail _ (.tail _ (.head _)))))) htext (by decide) hf hl hcode
    simp only [Finds, List.exists_mem_cons_iff, List.forall_mem_cons, List.not_mem_nil, false_and,
      exists_false, or_false, false_implies, implies_true, and_true] at hsc01 hsc05 hsc06 hdc01
    exact ⟨hsc01, hsc05, hsc06, hdc01⟩

/-- A line of comment after a no-break space, and a line of code after a tab. -/
def shortContract : SourceFile :=
  ⟨"A.sol", ["\u00a0// tx.origin is bad", "\trequire(tx.origin == a);"]⟩

theorem bundled_reports_shortContract : ∃ registry result, bundled = .ok registry ∧
    Engine.unlimited.scanIn [0] registry.rules [shortContract] = .ok result ∧ result.errors = [] ∧
      (∀ x ∈ result.findings, ¬ StartsComment x.snippet) ∧
      ReportedOn result "SC01" shortContract 2 "\trequire(tx.origin == a);" ∧
      ¬ ReportedOn result "DC01" shortContract 2 "\trequire(tx.origin == a);" := by
  have horigin : Occurs "tx.origin" "\trequire(tx.origin == a);" := by
    rw [Occurs]
    repeat rw [String.toList_ofList]
    decide
  have hdelegate : ¬ Occurs "delegatecall" "\trequire(tx.origin == a);" := by
    rw [Occurs]
    repeat rw [String.toList_ofList]
    decide
  have hcode : ¬ StartsComment (Text.strip "\trequire(tx.origin == a);") := by
    rw [Text.strip]
    repeat rw [String.toList_ofList]
    decide +kernel
  obtain ⟨registry, hbundled, hscan⟩ := bundled_reports
  obtain ⟨hresult, hreports⟩ := hscan Engine.unlimited [shortContract] [0] (by decide)
  obtain ⟨result, hresult⟩ := hresult ⟨by simp [Engine.unlimited], rfl, .inl rfl⟩
  obtain ⟨herrors, hcomments, hlines⟩ := hreports result hresult
  obtain ⟨hsc01, -, -, hdc01⟩ := hlines shortContract (by simp) 2 _ rfl hcode
  exact ⟨registry, result, hbundled, hresult, herrors, hcomments, hsc01.mpr horigin,
    fun h => hdelegate (hdc01.mp h)⟩

end Pack

end LineAudit
