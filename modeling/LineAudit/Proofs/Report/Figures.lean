import LineAudit.Proofs.Registry
import LineAudit.Proofs.Scan.Exact
import LineAudit.Proofs.Severity
import LineAudit.Report.Markdown
import LineAudit.Report.Payload

/-!
The figures of a report.

Findings are counted by severity for the overview and for the payload, and are listed by rule below
headings that name the severities of the rules. Main result: all these figures agree, because a
finding has the severity of its rule and no two rules share an id.
-/

namespace LineAudit

/-- The value at the end of a way of keys through mappings. -/
def Value.at? : List String → Value → Option Value
  | [], v => some v
  | key :: rest, .dict entries => (field? key entries).bind (at? rest)
  | _ :: _, _ => none

/-! ### Findings by rule -/

variable {σ : Type} {rules : List (Rule σ)} {files : List SourceFile}

/-- Among rules with distinct ids, the rule of a finding is one of those with a severity exactly
when the finding has this severity. -/
lemma countP_rule_of_finding [DecidableEq σ] (hids : (rules.map Rule.id).Nodup) {x : Finding σ}
    (hx : ∃ r ∈ rules, r.id = x.ruleId ∧ r.severity = x.severity) (s : σ) :
    (rules.filter fun r => r.severity = s).countP (fun r => x.ruleId = r.id) =
      if x.severity = s then 1 else 0 := by
  obtain ⟨r, hr, hid, hseverity⟩ := hx
  have hsame : ∀ r' ∈ rules, x.ruleId = r'.id → r'.severity = x.severity := by
    intro r' hr' h
    rw [List.inj_on_of_nodup_map hids hr' hr (h.symm.trans hid.symm), hseverity]
  rw [List.countP_filter]
  by_cases hs : x.severity = s
  · have hone : (rules.map Rule.id).count x.ruleId = 1 :=
      List.count_eq_one_of_mem hids (hid ▸ List.mem_map_of_mem hr)
    rw [if_pos hs, ← hone, List.count, List.countP_map]
    refine List.countP_congr fun r' hr' => ?_
    have := hsame r' hr'
    grind
  · rw [if_neg hs, List.countP_eq_zero]
    intro r' hr'
    have := hsame r' hr'
    grind

/-- The findings of all rules with a severity are the findings with this severity. -/
lemma sum_findings_of_rules [DecidableEq σ] (hids : (rules.map Rule.id).Nodup)
    {findings : List (Finding σ)}
    (hrules : ∀ x ∈ findings, ∃ r ∈ rules, r.id = x.ruleId ∧ r.severity = x.severity) (s : σ) :
    ((rules.filter fun r => r.severity = s).map fun r =>
      (findings.filter fun x => x.ruleId = r.id).length).sum =
      (findings.map Finding.severity).count s := by
  induction findings with
  | nil => simp
  | cons x rest ih =>
    rw [List.forall_mem_cons] at hrules
    have hsplit (r : Rule σ) : ((x :: rest).filter fun y => y.ruleId = r.id).length =
        (rest.filter fun y => y.ruleId = r.id).length + if x.ruleId = r.id then 1 else 0 := by
      by_cases h : x.ruleId = r.id <;> simp [h]
    have hone := countP_rule_of_finding hids hrules.1 s
    simp only [hsplit]
    rw [List.sum_map_add, ih hrules.2, List.map_cons, List.count_cons]
    simp only [beq_iff_eq, ← hone, countP_eq_sum, decide_eq_true_eq]

/-! ### Reading a report -/

namespace Markdown

def StartsWith (start line : String) : Prop := start.toList <+: line.toList

def EndsWith (ending line : String) : Prop := ending.toList <:+ line.toList

instance (start line : String) : Decidable (StartsWith start line) :=
  inferInstanceAs (Decidable (_ <+: _))

instance (ending line : String) : Decidable (EndsWith ending line) :=
  inferInstanceAs (Decidable (_ <:+ _))

/-- The lines below a heading, up to the next heading of its rank. -/
def part (heading : String) (lines : List String) : List String :=
  (lines.dropWhile (· ≠ heading)).tail.takeWhile fun line => ¬ StartsWith "## " line

/-- The rows of a severity in the overview. -/
def rowsOf (s : Severity) (lines : List String) : List String :=
  (part "## Findings Overview" lines).filter fun line => StartsWith s!"| {s.title} |" line

/-- The lines of findings below the headings of rules that end with the tag of a severity; `below`
tells whether the heading above all lines does. -/
def listedBelow (s : Severity) (below : Bool) : List String → List String
  | [] => []
  | line :: rest =>
    if StartsWith "### " line then listedBelow s (EndsWith s!"({s.capitals})" line) rest
    else if StartsWith "- `" line ∧ below then line :: listedBelow s below rest
    else listedBelow s below rest

/-- The lines of findings with a severity in a report. -/
def listed (s : Severity) (lines : List String) : List String :=
  listedBelow s false (part "## Pattern Findings" lines)

lemma part_eq {heading next : String} {before body rest : List String}
    (hbefore : heading ∉ before) (hbody : ∀ line ∈ body, ¬ StartsWith "## " line)
    (hnext : StartsWith "## " next) :
    part heading (before ++ heading :: (body ++ next :: rest)) = body := by
  have hfirst : ∀ line ∈ before, decide (line ≠ heading) = true :=
    fun line hline => decide_eq_true fun h => hbefore (h ▸ hline)
  rw [part, List.dropWhile_append_of_pos hfirst, List.dropWhile_cons_of_neg (by simp),
    List.tail_cons, List.takeWhile_append_of_pos (by simpa using hbody),
    List.takeWhile_cons_of_neg (by simpa using hnext), List.append_nil]

/-! ### The overview -/

lemma startsWith_overviewRow_iff (s : Severity) (t : SeverityTotal) :
    StartsWith s!"| {s.title} |" (overviewRow t) ↔ t.severity = s := by
  obtain ⟨s', found, analyzed⟩ := t
  cases s <;> cases s' <;> simp [StartsWith, overviewRow, Severity.title, toString]

lemma ne_append_of_not_startsWith {start line : String} (h : ¬ StartsWith start line)
    (rest : String) : line ≠ start ++ rest := by
  rintro rfl
  exact h (by simp [StartsWith])

lemma not_mem_head {heading : String} (target date : String)
    (h : heading ∈ ["## Findings Overview", "## Pattern Findings"]) :
    heading ∉ head target date := by
  have hdate : ¬ StartsWith "**Date:** " heading := by
    revert heading
    decide
  have htarget : ¬ StartsWith "**Target:** " heading := by
    revert heading
    decide
  have hnoDate := ne_append_of_not_startsWith hdate
  have hnoTarget := ne_append_of_not_startsWith htarget
  simp only [List.mem_cons, List.not_mem_nil, or_false] at h
  rcases h with rfl | rfl
  all_goals simp [head, version, toString, String.append_assoc, hnoDate, hnoTarget]

/-- The lines above the rows of the overview. -/
def rowsHead : List String :=
  ["", "| Severity | Pattern scan | Slither | Total |",
    "|----------|--------------|---------|-------|"]

/-- The overview ends where the part about the quality of the code begins, or that about the
findings. -/
lemma exists_next_overview (r : Report) (date : String)
    (groups : List (Rule Severity × List (Finding Severity))) :
    ∃ next rest, StartsWith "## " next ∧ lines r date groups = head r.target date ++
      "## Findings Overview" :: ((rowsHead ++
        (severityTotals r.result r.analyzed).map overviewRow ++ [""]) ++ next :: rest) := by
  cases h : r.facts with
  | nil =>
    refine ⟨"## Pattern Findings", (findings groups).drop 2 ++ analyzed r.analyzed ++
      warnings r.warnings ++ closing, by decide, ?_⟩
    simp [lines, overview, rowsHead, quality, findings, h]
  | cons f fs =>
    refine ⟨"## Code Quality", "" :: (f :: fs).map factLine ++ findings groups ++
      analyzed r.analyzed ++ warnings r.warnings ++ closing, by decide, ?_⟩
    simp [lines, overview, rowsHead, quality, h]

lemma part_overview (r : Report) (date : String)
    (groups : List (Rule Severity × List (Finding Severity))) :
    part "## Findings Overview" (lines r date groups) =
      rowsHead ++ (severityTotals r.result r.analyzed).map overviewRow ++ [""] := by
  obtain ⟨next, rest, hnext, hlines⟩ := exists_next_overview r date groups
  have hhead : ∀ line ∈ rowsHead, ¬ StartsWith "## " line := by decide
  have hblank : ∀ line ∈ [""], ¬ StartsWith "## " line := by decide
  have hrows : ∀ line ∈ (severityTotals r.result r.analyzed).map overviewRow,
      ¬ StartsWith "## " line := by
    simp [overviewRow, StartsWith, toString]
  rw [hlines]
  refine part_eq (not_mem_head _ _ (by decide)) ?_ hnext
  simp only [List.forall_mem_append]
  exact ⟨⟨hhead, hrows⟩, hblank⟩

/-- Each severity has one row. -/
lemma rowsOf_lines (s : Severity) (r : Report) (date : String)
    (groups : List (Rule Severity × List (Finding Severity))) :
    rowsOf s (lines r date groups) = [overviewRow ⟨s, r.result.count s,
      Severity.countIn (r.analyzed.map AnalyzerFinding.severity) s⟩] := by
  have hrow (t : SeverityTotal) := startsWith_overviewRow_iff s t
  have hhead : rowsHead.filter (fun line => StartsWith s!"| {s.title} |" line) = [] := by
    cases s <;> decide
  have hblank : [""].filter (fun line => StartsWith s!"| {s.title} |" line) = [] := by
    cases s <;> decide
  rw [rowsOf, part_overview, List.filter_append, List.filter_append, hhead, hblank]
  cases s <;> simp [hrow, severityTotals, Severity.all]

/-! ### The listing of findings -/

lemma tag_suffix_iff (s t : Severity) :
    s!"({s.capitals})".toList <:+ s!"({t.capitals})".toList ↔ s = t := by
  cases s <;> cases t <;> decide

/-- The tag at the end of a heading is that of the severity of the rule, and no other. -/
lemma endsWith_ruleHeading_iff (s : Severity) (r : Rule Severity) :
    EndsWith s!"({s.capitals})" (ruleHeading r) ↔ r.severity = s := by
  have htag : s!"({r.severity.capitals})".toList <:+ (ruleHeading r).toList := by
    refine ⟨s!"### {r.id}: {r.description.text} ".toList, ?_⟩
    rw [← String.toList_append]
    simp [ruleHeading, String.append_assoc, toString]
  unfold EndsWith
  constructor
  · intro h
    rcases List.suffix_or_suffix_of_suffix h htag with hs | hs
    · exact ((tag_suffix_iff s r.severity).mp hs).symm
    · exact (tag_suffix_iff r.severity s).mp hs
  · rintro rfl
    exact htag

lemma listedBelow_findingLines (s : Severity) (below : Bool) (findings : List (Finding Severity))
    (rest : List String) :
    listedBelow s below (findings.map findingLine ++ rest) =
      (if below then findings.map findingLine else []) ++ listedBelow s below rest := by
  induction findings with
  | nil => simp
  | cons f fs ih =>
    have hheading : ¬ StartsWith "### " (findingLine f) := by
      simp [StartsWith, findingLine, toString]
    have hbullet : StartsWith "- `" (findingLine f) := by simp [StartsWith, findingLine, toString]
    rw [List.map_cons, List.cons_append, listedBelow, if_neg hheading, ih]
    cases below <;> simp [hbullet]

/-- What is neither a heading nor the line of a finding is passed over. -/
lemma listedBelow_skip (s : Severity) (below : Bool) (skipped rest : List String)
    (h : ∀ line ∈ skipped, ¬ StartsWith "### " line ∧ ¬ StartsWith "- `" line) :
    listedBelow s below (skipped ++ rest) = listedBelow s below rest := by
  induction skipped with
  | nil => rfl
  | cons line skipped ih =>
    rw [List.forall_mem_cons] at h
    rw [List.cons_append, listedBelow, if_neg h.1.1, if_neg fun hb => h.1.2 hb.1, ih h.2]

lemma listedBelow_ruleSection (s : Severity) (below : Bool)
    (group : Rule Severity × List (Finding Severity)) (rest : List String) :
    listedBelow s below (ruleSection group ++ rest) =
      (if group.1.severity = s then group.2.map findingLine else []) ++
        listedBelow s (group.1.severity = s) rest := by
  have hheading : StartsWith "### " (ruleHeading group.1) := by
    simp [StartsWith, ruleHeading, toString]
  have hblank : ∀ line ∈ [""], ¬ StartsWith "### " line ∧ ¬ StartsWith "- `" line := by decide
  have hadvice : ∀ line ∈ [""] ++ recommendation group.1,
      ¬ StartsWith "### " line ∧ ¬ StartsWith "- `" line := by
    unfold recommendation
    split <;> simp [StartsWith, toString]
  have hsection : ruleSection group ++ rest = ruleHeading group.1 ::
      (([""] ++ recommendation group.1) ++ (group.2.map findingLine ++ ([""] ++ rest))) := by
    simp [ruleSection]
  rw [hsection, listedBelow, if_pos hheading, listedBelow_skip _ _ _ _ hadvice,
    listedBelow_findingLines, listedBelow_skip _ _ _ _ hblank]
  simp only [endsWith_ruleHeading_iff, decide_eq_true_eq]

lemma listedBelow_flatMap (s : Severity) (below : Bool)
    (groups : List (Rule Severity × List (Finding Severity))) :
    listedBelow s below (groups.flatMap ruleSection ++ [""]) =
      (groups.filter fun g => g.1.severity = s).flatMap fun g => g.2.map findingLine := by
  induction groups generalizing below with
  | nil => simp [listedBelow, StartsWith]
  | cons group rest ih =>
    rw [List.flatMap_cons, List.append_assoc, listedBelow_ruleSection, ih]
    by_cases h : group.1.severity = s <;> simp [h]

lemma not_startsWith_ruleSection (group : Rule Severity × List (Finding Severity)) :
    ∀ line ∈ ruleSection group, ¬ StartsWith "## " line := by
  have hadvice : ∀ line ∈ recommendation group.1, ¬ StartsWith "## " line := by
    unfold recommendation
    split <;> simp [StartsWith, toString]
  simp only [ruleSection, List.forall_mem_append]
  refine ⟨⟨⟨?_, hadvice⟩, ?_⟩, by decide⟩
  · simp [StartsWith, ruleHeading, toString]
  · simp [StartsWith, findingLine, toString]

lemma listed_lines (s : Severity) (r : Report) (date : String)
    (groups : List (Rule Severity × List (Finding Severity))) :
    listed s (lines r date groups) =
      (groups.filter fun g => g.1.severity = s).flatMap fun g => g.2.map findingLine := by
  have hlines : lines r date groups = (head r.target date ++
      overview (severityTotals r.result r.analyzed) ++ quality r.facts ++ [""]) ++
      "## Pattern Findings" :: ((([""] ++
        if groups.isEmpty then ["No pattern rules matched."] else []) ++
          (groups.flatMap ruleSection ++ [""])) ++ "## Slither Results" ::
      ((analyzed r.analyzed).drop 2 ++ warnings r.warnings ++ closing)) := by
    simp [lines, findings, analyzed]
  rw [listed, hlines, part_eq ?before ?body (by decide), listedBelow_skip _ _ _ _ ?first,
    listedBelow_flatMap]
  case before =>
    have hhead : "## Pattern Findings" ∉ head r.target date := not_mem_head _ _ (by decide)
    have hoverview : "## Pattern Findings" ∉ overview (severityTotals r.result r.analyzed) := by
      have hbar : ¬ StartsWith "| " "## Pattern Findings" := by decide
      have hrow (rest : String) := (ne_append_of_not_startsWith hbar rest).symm
      simp [overview, overviewRow, toString, String.append_assoc, hrow]
    have hquality : "## Pattern Findings" ∉ quality r.facts := by
      unfold quality
      split <;> simp [factLine, String.ext_iff]
    simp [hhead, hoverview, hquality]
  case body =>
    have hfirst : ∀ line ∈ [""] ++ if groups.isEmpty then ["No pattern rules matched."] else [],
        ¬ StartsWith "## " line := by
      split <;> decide
    have hsection : ∀ line ∈ groups.flatMap ruleSection, ¬ StartsWith "## " line := by
      intro line hline
      obtain ⟨group, -, hline⟩ := List.mem_flatMap.mp hline
      exact not_startsWith_ruleSection group line hline
    have hblank : ∀ line ∈ [""], ¬ StartsWith "## " line := by decide
    simp only [List.forall_mem_append]
    exact ⟨List.forall_mem_append.mp hfirst, hsection, hblank⟩
  case first =>
    split <;> decide

lemma length_listed_lines (s : Severity) (r : Report) (date : String)
    (groups : List (Rule Severity × List (Finding Severity))) :
    (listed s (lines r date groups)).length =
      ((groups.filter fun g => g.1.severity = s).flatMap Prod.snd).length := by
  simp [listed_lines, List.length_flatMap]

/-! ### Whether a report can be written -/

lemma render_eq {r : Report} {groups : List (Rule Severity × List (Finding Severity))}
    (date : String) (hgroups : groupByRule? r.registry.rules r.result.findings = some groups) :
    Markdown.render r date = if isWritable r groups then
      .ok ("\n".intercalate (lines r date groups)) else .error .longNumber := by
  rw [render, hgroups]

lemma isWritable_iff {r : Report} {groups : List (Rule Severity × List (Finding Severity))} :
    isWritable r groups = true ↔
      (∀ g ∈ groups, g.1.recommendation.isTrue → g.1.recommendation.isWritable) ∧
        ∀ f ∈ r.analyzed, f.isWritable := by
  simp [isWritable, List.all_eq_true, Classical.or_iff_not_imp_left]

end Markdown

/-- As many findings are listed in a report below the headings with the tag of a severity as there
are findings with this severity. -/
lemma listed_of_groupByRule? (r : Report) (files : List SourceFile) (date : String)
    (hids : r.registry.ids.Nodup) (hfound : Engine.found r.registry.rules files = r.result) :
    ∃ groups, groupByRule? r.registry.rules r.result.findings = some groups ∧
      ∀ s, (Markdown.listed s (Markdown.lines r date groups)).length = r.result.count s := by
  have hrules : ∀ x ∈ r.result.findings,
      ∃ rule ∈ r.registry.rules, rule.id = x.ruleId ∧ rule.severity = x.severity :=
    fun x hx => Engine.rule_of_finding (hfound ▸ hx)
  have hknown : (r.result.findings.all fun f =>
      r.registry.rules.any fun rule => rule.id == f.ruleId) = true := by
    rw [List.all_eq_true]
    intro x hx
    obtain ⟨rule, hrule, hid, -⟩ := hrules x hx
    exact List.any_eq_true.mpr ⟨rule, hrule, beq_iff_eq.mpr hid⟩
  refine ⟨_, if_pos hknown, fun s => ?_⟩
  rw [Markdown.length_listed_lines, List.filter_comm, flatMap_nonempty, List.length_flatMap,
    List.filter_map, List.map_map]
  exact sum_findings_of_rules hids hrules s

/-! ### Figures of a payload -/

namespace Payload

lemma at?_object (key : String) (rest : List String) (fields : List (String × Value)) :
    (object fields).at? (key :: rest) = (fields.lookup key).bind (Value.at? rest) := by
  have hfield : Value.field? key (fields.map fun field => (.str field.1, field.2)) =
      fields.lookup key := by
    induction fields with
    | nil => rfl
    | cons field fields ih =>
      obtain ⟨k, v⟩ := field
      rw [Value.field?] at ih ⊢
      rw [List.map_cons, Value.find?, List.lookup_cons, ih, Value.sameKey, Bool.beq_comm]
      cases key == k <;> rfl
  rw [← hfield]
  rfl

/-- Below the name of a severity stands its figure. -/
lemma at?_ofTotals (figure : SeverityTotal → ℕ) (total : Severity → SeverityTotal)
    (htotal : ∀ s, (total s).severity = s) (s : Severity) :
    (ofTotals (Severity.all.map total) figure).at? [s.name] = some (.int (figure (total s))) := by
  have hlookup : (Severity.all.map fun t => (t.name, ofNat (figure (total t)))).lookup s.name =
      some (ofNat (figure (total s))) := by
    cases s <;> rfl
  rw [ofTotals, at?_object, List.map_map, Function.comp_def]
  simp only [htotal, hlookup, Option.bind_some]
  rfl

lemma at?_summary (r : Report) (rest : List String) :
    (ofReport r).at? ("summary" :: rest) = (summary r).at? rest := by
  rw [ofReport, at?_object]
  rfl

end Payload

/-! ### All figures of a report -/

namespace Report

/-- Wherever a report with the given lines shows figures about a severity, they are these. -/
structure Shows (r : Report) (lines : List String) (s : Severity) (found analyzed : ℕ) : Prop where
  total : ⟨s, found, analyzed⟩ ∈ severityTotals r.result r.analyzed
  row : Markdown.rowsOf s lines =
    [s!"| {s.title} | {found} | {analyzed} | {found + analyzed} |"]
  count : (Payload.ofReport r).at? ["summary", "counts_by_severity", s.name] = some (.int found)
  analyzerCount :
    (Payload.ofReport r).at? ["summary", "analyzer_counts_by_severity", s.name] =
      some (.int analyzed)
  listed : (Markdown.listed s lines).length = found

/-- **All figures of a report agree.** For each severity the overview, the payload and the totals
show as many findings as are listed below headings with its tag. The counts of all severities add
up to the numbers of findings, and the gravest severity is the first one that is counted. The lines
are those of the report, which is written unless a number in it has too many digits. -/
theorem figures_agree (e : Engine) {entries : List Entry} {r : Report} {files : List SourceFile}
    {order : List ℕ} (date : String) (hload : Registry.load entries = .ok r.registry)
    (horder : order.Perm (List.range files.length))
    (hscan : e.scanIn order r.registry.rules files = .ok r.result) :
    let totals := severityTotals r.result r.analyzed
    let analyzed := r.analyzed.map AnalyzerFinding.severity
    let first? := Severity.all.find? fun s => r.result.count s != 0
    (∃ groups, groupByRule? r.registry.rules r.result.findings = some groups ∧
      (∀ s, r.Shows (Markdown.lines r date groups) s (r.result.count s)
        (Severity.countIn analyzed s)) ∧
      ((∃ text, Markdown.render r date = .ok text) ↔
        (∀ g ∈ groups, g.1.recommendation.isTrue → g.1.recommendation.isWritable) ∧
          ∀ f ∈ r.analyzed, f.isWritable) ∧
      ∀ text, Markdown.render r date = .ok text →
        text = "\n".intercalate (Markdown.lines r date groups)) ∧
    totals.map SeverityTotal.severity = Severity.all ∧
    (totals.map SeverityTotal.found).sum = r.result.findings.length ∧
    (totals.map SeverityTotal.analyzed).sum = r.analyzed.length ∧
    Severity.all.Pairwise (fun s t => t.rank < s.rank) ∧
    r.result.worst? = first? ∧
    (Payload.ofReport r).at? ["summary", "worst_severity"] =
      some (Payload.ofOption (fun s => .str s.name) first?) := by
  intro totals analyzed first?
  obtain ⟨-, hfound⟩ := (Engine.scanIn_eq_ok_iff e r.registry.rules horder r.result).mp hscan
  obtain ⟨groups, hgroups, hlisted⟩ :=
    listed_of_groupByRule? r files date (Registry.load_eq_ok_iff.mp hload).2 hfound
  have hworst : r.result.worst? = first? := Severity.worst?_eq_find? r.result.severities
  refine ⟨⟨groups, hgroups, fun s => ?_, ?_, fun text htext => ?_⟩, ?_, ?_, ?_,
    Severity.pairwise_all, hworst, ?_⟩
  · exact {
      total := List.mem_map_of_mem s.mem_all
      row := Markdown.rowsOf_lines s r date groups
      count := by
        rw [Payload.at?_summary, Payload.summary, Payload.at?_object]
        exact Payload.at?_ofTotals SeverityTotal.found _ (fun _ => rfl) s
      analyzerCount := by
        rw [Payload.at?_summary, Payload.summary, Payload.at?_object]
        exact Payload.at?_ofTotals SeverityTotal.analyzed _ (fun _ => rfl) s
      listed := hlisted s }
  · rw [Markdown.render_eq date hgroups, ← Markdown.isWritable_iff]
    split
    next h => simp [h]
    next h => simp [h]
  · rw [Markdown.render_eq date hgroups] at htext
    split at htext
    next => exact (Except.ok.inj htext).symm
    next => simp at htext
  · exact (List.map_map ..).trans (List.map_id _)
  · have hsum := Severity.sum_countIn r.result.severities
    rw [ScanResult.severities, List.length_map] at hsum
    exact (congrArg List.sum (List.map_map ..)).trans hsum
  · have hsum := Severity.sum_countIn analyzed
    rw [List.length_map] at hsum
    exact (congrArg List.sum (List.map_map ..)).trans hsum
  · rw [← hworst, Payload.at?_summary, Payload.summary, Payload.at?_object]
    rfl

/-- Two rules as they are handed in. -/
def twoEntries : List Entry := [
  .draft ⟨.str "A", .str "x marks", .raw (.str "High"), .literal 0 (.str "x"), .list [], .null⟩,
  .draft ⟨.str "B", .null, .level .low, .literal 0 (.str "y"), .list [], .null⟩]

/-- A report with three findings of the two rules, and with one of an analyzer. -/
def ofThreeFindings : Report where
  target := "src"
  rulesPath := "rules.yaml"
  registry := ⟨[⟨"A", .str "x marks", .high, .literal 0 (.str "x"), [], .null⟩,
    ⟨"B", .null, .low, .literal 0 (.str "y"), [], .null⟩]⟩
  result := ⟨[⟨"A", .high, "a", 1, "x y"⟩, ⟨"B", .low, "a", 1, "x y"⟩,
    ⟨"A", .high, "a", 2, "x"⟩], []⟩
  analyzed := [⟨"c", .low, "High", "d", none, none⟩]
  facts := []
  warnings := []

theorem figures_agree_threeFindings :
    Registry.load twoEntries = .ok ofThreeFindings.registry ∧
    Engine.unlimited.scanIn [0] ofThreeFindings.registry.rules [⟨"a", ["x y", " x"]⟩] =
      .ok ofThreeFindings.result ∧
    ∃ lines, Markdown.render ofThreeFindings "now" = .ok ("\n".intercalate lines) ∧
      ofThreeFindings.Shows lines .high 2 0 ∧ ofThreeFindings.Shows lines .low 1 1 ∧
      ofThreeFindings.Shows lines .critical 0 0 := by
  have hload : Registry.load twoEntries = .ok ofThreeFindings.registry := rfl
  have hscan : Engine.unlimited.scanIn [0] ofThreeFindings.registry.rules
      [⟨"a", ["x y", " x"]⟩] = .ok ofThreeFindings.result := by cbv
  obtain ⟨⟨groups, hgroups, hshows, hwritten, hlines⟩, -⟩ :=
    figures_agree Engine.unlimited "now" hload (by decide) hscan
  obtain rfl := Option.some.inj (hgroups.symm.trans (by rfl))
  obtain ⟨text, htext⟩ := hwritten.mpr (by decide)
  refine ⟨hload, hscan, _, ?_, hshows .high, hshows .low, hshows .critical⟩
  rw [htext, hlines text htext]

end Report

end LineAudit
