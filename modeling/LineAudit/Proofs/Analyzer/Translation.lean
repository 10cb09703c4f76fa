import LineAudit.Analyzer.Payload
import LineAudit.Proofs.Lists
import LineAudit.Proofs.Outcome
import LineAudit.Proofs.Text.Words

/-!
What the results of the analyzer are translated to.

A result with an impact that is known becomes one finding, and anything else in the list is passed
over; nothing is carried from one result to the next. Main result: data of the expected form is
translated one by one.
-/

namespace LineAudit.AnalyzerPayload

open Value (field? fieldD)

/-! ### The expected form -/

/-- A part is missing or null, or has a property. -/
def Optionally (P : Value → Prop) (v? : Option Value) : Prop :=
  v? = none ∨ v? = some .null ∨ ∃ v, v? = some v ∧ P v

/-- The file names in a mapping are texts and its lines are whole numbers, where they are given. -/
structure PlainMapping (mapping : List (Value × Value)) : Prop where
  relative : Optionally (fun v => ∃ s, v = .str s) (field? "filename_relative" mapping)
  short : Optionally (fun v => ∃ s, v = .str s) (field? "filename_short" mapping)
  lines : Optionally (fun v => ∃ ns : List Int, v = .list (ns.map .int)) (field? "lines" mapping)

/-- An element that is a mapping has a source mapping, if one is given. -/
def PlainElement (element : Value) : Prop :=
  ∀ entries, element = .dict entries →
    Optionally (fun v => ∃ mapping, v = .dict mapping ∧ PlainMapping mapping)
      (field? "source_mapping" entries)

/-- A result that is a mapping has a list of elements, if they are given. -/
def PlainResult (result : Value) : Prop :=
  ∀ entries, result = .dict entries →
    Optionally (fun v => ∃ elements, v = .list elements ∧ ∀ x ∈ elements, PlainElement x)
      (field? "elements" entries)

/-- The data holds a list of results. -/
def Holds (payload : List (Value × Value)) (results : List Value) : Prop :=
  ∃ entries, field? "results" payload = some (.dict entries) ∧
    field? "detectors" entries = some (.list results)

/-! ### Places -/

/-- The file that a mapping names: the relative name, or else the short one. An empty name is
none. -/
inductive Names (mapping : List (Value × Value)) : String → Prop
  | relative {file : String} (h : field? "filename_relative" mapping = some (.str file))
    (hne : file ≠ "") : Names mapping file
  | short {file : String}
    (hno : ∀ other, field? "filename_relative" mapping = some (.str other) → other = "")
    (h : field? "filename_short" mapping = some (.str file)) (hne : file ≠ "") :
    Names mapping file

/-- The line at which a mapping starts, if it has lines. -/
inductive StartsAt (mapping : List (Value × Value)) : Option Int → Prop
  | line {n : Int} {rest : List Value}
      (h : field? "lines" mapping = some (.list (.int n :: rest))) :
    StartsAt mapping (some n)
  | nowhere (h : ∀ first rest, field? "lines" mapping ≠ some (.list (first :: rest))) :
    StartsAt mapping none

/-- The place at which an element stands. -/
inductive StandsAt : Value → String → Option Int → Prop
  | mk {entries mapping : List (Value × Value)} {file : String} {line? : Option Int}
    (hmapping : field? "source_mapping" entries = some (.dict mapping))
    (hfile : Names mapping file) (hline : StartsAt mapping line?) :
    StandsAt (.dict entries) file line?

/-- The place of some elements: that of the first one which has one. -/
inductive FirstStandsAt (elements : List Value) : Option String → Option Int → Prop
  | place {before after : List Value} {element : Value} {file : String} {line? : Option Int}
    (hsplit : elements = before ++ element :: after)
    (hbefore : ∀ x ∈ before, ∀ file line?, ¬ StandsAt x file line?)
    (h : StandsAt element file line?) : FirstStandsAt elements (some file) line?
  | nowhere (h : ∀ x ∈ elements, ∀ file line?, ¬ StandsAt x file line?) :
    FirstStandsAt elements none none

/-! ### Findings -/

/-- The impact of a result as text, in small letters and without white space around it. -/
def impactText (entries : List (Value × Value)) : String :=
  Text.lowercase (Text.strip (fieldOr "impact" "" entries).text)

/-- The severity of an impact. -/
inductive Impact : String → Severity → Prop
  | high : Impact "high" .high
  | medium : Impact "medium" .medium
  | low : Impact "low" .low
  | informational : Impact "informational" .informational
  | optimization : Impact "optimization" .informational

/-- The impacts that have a severity. -/
def knownImpacts : List String := ["high", "medium", "low", "informational", "optimization"]

/-- A result that is a mapping with a known impact. -/
def isReported : Value → Bool
  | .dict entries => knownImpacts.contains (impactText entries)
  | _ => false

/-- A description starts a text in which white space has been made single, and ends with it or
after the greatest number of characters. -/
structure Describes (text description : String) : Prop where
  start : description.toList <+: (Text.collapseBlanks text).toList
  length : description.length = min descriptionLimit (Text.collapseBlanks text).length
  spaced : Text.SingleSpaced description.toList

/-- The elements of a result. -/
def elementsOf (entries : List (Value × Value)) : List Value :=
  match fieldD "elements" entries with
  | .list elements => elements
  | _ => []

/-- A finding tells what a result holds. -/
structure Tells (entries : List (Value × Value)) (f : AnalyzerFinding) : Prop where
  severity : Impact (impactText entries) f.severity
  check : f.check = (fieldOr "check" "unknown" entries).text
  confidence : f.confidence = Text.lowercase (fieldOr "confidence" "" entries).text
  description : Describes (fieldOr "description" "" entries).text f.description
  place : FirstStandsAt (elementsOf entries) f.file? f.line?

/-- A result is a mapping of which a finding tells. -/
def Reports (result : Value) (f : AnalyzerFinding) : Prop :=
  ∃ entries, result = .dict entries ∧ Tells entries f

/-! ### Reading places -/

/-- A part that is missing or null is read as null. -/
lemma Optionally.getD_cases {P : Value → Prop} {v? : Option Value} (h : Optionally P v?) :
    (v?.getD .null = .null ∧ ∀ v, v? = some v → v = .null) ∨ ∃ v, v? = some v ∧ P v := by
  rcases h with rfl | rfl | hgiven
  · exact .inl ⟨rfl, by simp⟩
  · exact .inl ⟨rfl, by simp⟩
  · exact .inr hgiven

section Places

variable {mapping : List (Value × Value)}

/-- A name counts unless it is missing or empty. -/
lemma name_cases {v? : Option Value} (h : Optionally (fun v => ∃ s, v = .str s) v?) :
    (v?.getD .null).isTrue = false ∧ (∀ s, v? = some (.str s) → s = "") ∨
      ∃ s, v? = some (.str s) ∧ s ≠ "" := by
  rcases h.getD_cases with ⟨hnull, hno⟩ | ⟨_, rfl, s, rfl⟩
  · exact .inl ⟨by rw [hnull]; rfl, fun s hs => nomatch hno _ hs⟩
  · by_cases hs : s = ""
    · exact .inl ⟨by simp [hs, Value.isTrue], by simp [hs]⟩
    · exact .inr ⟨s, rfl, hs⟩

lemma isTrue_str {s : String} (h : s ≠ "") : (Value.str s).isTrue = true := by
  simpa [Value.isTrue] using h

/-- A mapping names the file that is read from it, or none. -/
lemma fileName?_cases (h : PlainMapping mapping) :
    (∃ file, fileName? mapping = some file ∧ Names mapping file) ∨
      fileName? mapping = none ∧ ∀ file, ¬ Names mapping file := by
  unfold fileName? fieldD
  rcases name_cases h.relative with ⟨hrelative, hempty⟩ | ⟨s, hs, hne⟩
  · simp only [hrelative, Bool.false_eq_true, if_false]
    rcases name_cases h.short with ⟨hshort, hempty'⟩ | ⟨s, hs, hne⟩
    · refine .inr ⟨by simp [hshort], ?_⟩
      rintro file (⟨hfile, hne⟩ | ⟨-, hfile, hne⟩)
      · exact hne (hempty file hfile)
      · exact hne (hempty' file hfile)
    · exact .inl ⟨s, by simp [hs, isTrue_str hne, Value.text], .short hempty hs hne⟩
  · exact .inl ⟨s, by simp [hs, isTrue_str hne, Value.text], .relative hs hne⟩

/-- The first line of a mapping is read as the one at which it starts. -/
lemma exists_firstLine (h : PlainMapping mapping) :
    ∃ line?, firstLine (fieldD "lines" mapping) = .ok line? ∧ StartsAt mapping line? := by
  unfold fieldD
  rcases h.lines.getD_cases with ⟨hnull, hno⟩ | ⟨_, hlines, ns, rfl⟩
  · exact ⟨none, by rw [hnull]; rfl, .nowhere fun _ _ hlines => nomatch hno _ hlines⟩
  · cases ns with
    | nil => exact ⟨none, by rw [hlines]; rfl, .nowhere (by simp [hlines])⟩
    | cons n rest => exact ⟨some n, by rw [hlines]; rfl, .line hlines⟩

/-- The place of an element is read as it stands in its source mapping. -/
lemma elementPlace?_cases {element : Value} (h : PlainElement element) :
    (∃ file line?, elementPlace? element = .ok (some (file, line?)) ∧
      StandsAt element file line?) ∨
      elementPlace? element = .ok none ∧ ∀ file line?, ¬ StandsAt element file line? := by
  cases element with
  | dict entries =>
    rw [elementPlace?]
    rcases (h entries rfl).getD_cases with ⟨hnull, hno⟩ | ⟨_, hgiven, mapping, rfl, hplain⟩
    · refine .inr ⟨by rw [fieldD, hnull]; rfl, ?_⟩
      rintro _ _ ⟨hmapping, -, -⟩
      cases hno _ hmapping
    · have hread : mappingOf (fieldD "source_mapping" entries) = .ok mapping := by
        rw [fieldD, hgiven]
        cases mapping <;> rfl
      rw [hread]
      rcases fileName?_cases hplain with ⟨file, hname, hfile⟩ | ⟨hname, hno⟩
      · obtain ⟨line?, hline, hstart⟩ := exists_firstLine hplain
        refine .inl ⟨file, line?, ?_, .mk hgiven hfile hstart⟩
        simp only [bind, Except.bind, hname, hline]
        rfl
      · refine .inr ⟨by simp only [bind, Except.bind, hname]; rfl, ?_⟩
        rintro file _ ⟨hmapping, hfile, -⟩
        obtain rfl := Value.dict.inj (Option.some.inj (hgiven.symm.trans hmapping))
        exact hno file hfile
  | _ => exact .inr ⟨rfl, by rintro _ _ ⟨⟩⟩

lemma FirstStandsAt.cons {element : Value} {rest : List Value} {file? : Option String}
    {line? : Option Int} (hno : ∀ file line?, ¬ StandsAt element file line?)
    (h : FirstStandsAt rest file? line?) : FirstStandsAt (element :: rest) file? line? := by
  cases h with
  | place hsplit hbefore h =>
    exact .place (by rw [hsplit, List.cons_append]) (List.forall_mem_cons.mpr ⟨hno, hbefore⟩) h
  | nowhere h => exact .nowhere (List.forall_mem_cons.mpr ⟨hno, h⟩)

/-- The place read for some elements is that of the first one which has one. -/
lemma exists_firstPlace? {elements : List Value} (h : ∀ x ∈ elements, PlainElement x) :
    ∃ place? : Option (String × Option Int), firstPlace? elements = .ok place? ∧
      FirstStandsAt elements (place?.map (·.1)) (place?.bind (·.2)) := by
  induction elements with
  | nil => exact ⟨none, rfl, .nowhere (by simp)⟩
  | cons element rest ih =>
    obtain ⟨helement, hrest⟩ := List.forall_mem_cons.mp h
    rw [firstPlace?]
    rcases elementPlace?_cases helement with ⟨file, line?, hread, hplace⟩ | ⟨hread, hno⟩
    · refine ⟨some (file, line?), by rw [hread]; rfl, ?_⟩
      exact .place (List.nil_append (element :: rest)).symm (by simp) hplace
    · obtain ⟨place?, hread', hfirst⟩ := ih hrest
      exact ⟨place?, by rw [hread, ← hread']; rfl, hfirst.cons hno⟩

end Places

/-! ### Translating results -/

lemma mem_knownImpacts_iff {text : String} :
    text ∈ knownImpacts ↔ text = "high" ∨ text = "medium" ∨ text = "low" ∨
      text = "informational" ∨ text = "optimization" := by
  simp [knownImpacts]

/-- The severities of impacts are those in the table. -/
lemma lookup_impacts_cases (text : String) :
    (∃ severity, impacts.lookup text = some severity ∧ Impact text severity ∧
      text ∈ knownImpacts) ∨ impacts.lookup text = none ∧ text ∉ knownImpacts := by
  by_cases h : text ∈ knownImpacts
  · refine .inl ?_
    rcases mem_knownImpacts_iff.mp h with rfl | rfl | rfl | rfl | rfl
    · exact ⟨.high, by decide, .high, h⟩
    · exact ⟨.medium, by decide, .medium, h⟩
    · exact ⟨.low, by decide, .low, h⟩
    · exact ⟨.informational, by decide, .informational, h⟩
    · exact ⟨.informational, by decide, .optimization, h⟩
  · refine .inr ⟨?_, h⟩
    rw [mem_knownImpacts_iff] at h
    simpa [impacts, List.lookup_eq_none_iff] using h

lemma Impact.ne_critical {text : String} {severity : Severity} (h : Impact text severity) :
    severity ≠ .critical := by
  cases h <;> simp

lemma describes_firstChars (text : String) :
    Describes text (firstChars descriptionLimit (Text.collapseBlanks text)) := by
  generalize hspaced : Text.collapseBlanks text = cs
  have hstart := List.take_prefix descriptionLimit cs.toList
  constructor
  · rw [hspaced, firstChars, String.toList_ofList]
    exact hstart
  · rw [hspaced, firstChars, String.length_ofList, List.length_take, String.length_toList]
  · rw [firstChars, String.toList_ofList]
    exact (hspaced ▸ Text.singleSpaced_collapseBlanks text).of_isPrefix hstart

/-- The elements of a result are looked through from the first to the last. -/
lemma itemsOf_elements {entries : List (Value × Value)} (h : PlainResult (.dict entries)) :
    itemsOf (fieldD "elements" entries) = .ok (elementsOf entries) ∧
      ∀ x ∈ elementsOf entries, PlainElement x := by
  unfold elementsOf fieldD
  rcases (h entries rfl).getD_cases with ⟨hnull, -⟩ | ⟨_, hgiven, elements, rfl, hplain⟩
  · rw [hnull]
    exact ⟨rfl, by simp⟩
  · rw [hgiven]
    exact ⟨by cases elements <;> rfl, hplain⟩

/-- A result of known impact is translated to a finding that tells what it holds. -/
lemma exists_finding {entries : List (Value × Value)} (h : PlainResult (.dict entries))
    {severity : Severity} (himpact : Impact (impactText entries) severity) :
    ∃ f, finding severity entries = .ok f ∧ Tells entries f := by
  obtain ⟨hitems, hplain⟩ := itemsOf_elements h
  obtain ⟨place?, hread, hplace⟩ := exists_firstPlace? hplain
  let f : AnalyzerFinding := {
    check := (fieldOr "check" "unknown" entries).text
    severity
    confidence := Text.lowercase (fieldOr "confidence" "" entries).text
    description :=
      firstChars descriptionLimit (Text.collapseBlanks (fieldOr "description" "" entries).text)
    file? := place?.map (·.1)
    line? := place?.bind (·.2) }
  have htells : Tells entries f := {
    severity := himpact
    check := rfl
    confidence := rfl
    description := describes_firstChars _
    place := hplace }
  refine ⟨f, ?_, htells⟩
  simp only [finding, hitems, hread, bind, Except.bind, pure, Except.pure, f]

lemma impactSeverity?_field (entries : List (Value × Value)) :
    impactSeverity? (fieldOr "impact" "" entries) = impacts.lookup (impactText entries) :=
  rfl

/-- A result of known impact is translated to a finding that reports it. -/
lemma exists_resultFinding? {result : Value} (h : PlainResult result)
    (hreported : isReported result = true) :
    ∃ f, resultFinding? result = .ok (some f) ∧ Reports result f := by
  cases result with
  | dict entries =>
    simp only [isReported, List.contains_iff_mem] at hreported
    simp only [resultFinding?, impactSeverity?_field]
    rcases lookup_impacts_cases (impactText entries) with
      ⟨severity, hlookup, himpact, -⟩ | ⟨-, hno⟩
    · obtain ⟨f, hfinding, htells⟩ := exists_finding h himpact
      simp only [hlookup, hfinding]
      exact ⟨f, rfl, entries, rfl, htells⟩
    · exact absurd hreported hno
  | _ => cases hreported

/-- Anything else is passed over, whatever it holds. -/
lemma resultFinding?_of_not {result : Value} (h : isReported result = false) :
    resultFinding? result = .ok none := by
  cases result with
  | dict entries =>
    rw [resultFinding?, impactSeverity?_field]
    rcases lookup_impacts_cases (impactText entries) with ⟨_, -, -, hmem⟩ | ⟨hlookup, -⟩
    · simp [isReported, hmem] at h
    · rw [hlookup]
  | _ => rfl

/-! ### Lists of results -/

/-- The findings of two lists of results, one after the other, are those of each of them. -/
lemma findingsOf_append {before after : List Value} {found₁ found₂ : List AnalyzerFinding}
    (h₁ : findingsOf before = .ok found₁) (h₂ : findingsOf after = .ok found₂) :
    findingsOf (before ++ after) = .ok (found₁ ++ found₂) := by
  induction before generalizing found₁ with
  | nil =>
    obtain rfl := Except.ok.inj h₁
    exact h₂
  | cons result rest ih =>
    rw [findingsOf] at h₁
    obtain ⟨found?, hresult, h₁⟩ := bind_eq_ok_iff.mp h₁
    obtain ⟨found, hrest, h₁⟩ := bind_eq_ok_iff.mp h₁
    obtain rfl := pure_eq_ok_iff.mp h₁
    rw [List.cons_append, findingsOf, hresult]
    simp only [bind, Except.bind, ih hrest, pure, Except.pure, List.append_assoc]

/-- Results that are not reported change nothing. -/
lemma findingsOf_filter (results : List Value) :
    findingsOf (results.filter isReported) = findingsOf results := by
  induction results with
  | nil => rfl
  | cons result rest ih =>
    cases hreported : isReported result with
    | true => rw [List.filter_cons_of_pos hreported, findingsOf, findingsOf, ih]
    | false =>
      rw [List.filter_cons_of_neg (by simp [hreported]), findingsOf, ih,
        resultFinding?_of_not hreported]
      cases findingsOf rest <;> rfl

/-- The results of known impact are reported one by one, in their order. -/
lemma exists_findingsOf {results : List Value} (h : ∀ x ∈ results, PlainResult x) :
    ∃ findings, findingsOf results = .ok findings ∧
      List.Forall₂ Reports (results.filter isReported) findings := by
  induction results with
  | nil => exact ⟨[], rfl, .nil⟩
  | cons result rest ih =>
    obtain ⟨hresult, hrest⟩ := List.forall_mem_cons.mp h
    obtain ⟨found, hfound, hall⟩ := ih hrest
    rw [findingsOf, hfound]
    cases hreported : isReported result with
    | true =>
      obtain ⟨f, hread, hreports⟩ := exists_resultFinding? hresult hreported
      rw [hread, List.filter_cons_of_pos hreported]
      exact ⟨f :: found, rfl, .cons hreports hall⟩
    | false =>
      rw [resultFinding?_of_not hreported, List.filter_cons_of_neg (by simp [hreported])]
      exact ⟨found, rfl, hall⟩

lemma parse_of_holds {payload : List (Value × Value)} {results : List Value}
    (h : Holds payload results) : parse payload = findingsOf results := by
  obtain ⟨entries, hentries, hresults⟩ := h
  have hmapping : mappingOf (fieldD "results" payload) = .ok entries := by
    rw [fieldD, hentries]
    cases entries <;> rfl
  have hitems : itemsOf (fieldD "detectors" entries) = .ok results := by
    rw [fieldD, hresults]
    cases results <;> rfl
  simp only [parse, hmapping, bind, Except.bind, hitems]

lemma Reports.not_critical {result : Value} {f : AnalyzerFinding} (h : Reports result f) :
    f.severity ≠ .critical := by
  obtain ⟨entries, -, htells⟩ := h
  exact htells.severity.ne_critical

lemma Reports.length_description {result : Value} {f : AnalyzerFinding} (h : Reports result f) :
    f.description.length ≤ 500 := by
  obtain ⟨entries, -, htells⟩ := h
  rw [htells.description.length]
  exact min_le_left _ _

/-- **Results are translated one by one.** Data of the expected form is read. Its findings report
the results of known impact, in their order, and none of them is critical or has a description of
more than 500 characters. The findings of a list are those of its first results and then those of
the others, and results that are no mappings or of another impact may be put anywhere. -/
theorem parse_oneByOne {payload : List (Value × Value)} {results : List Value}
    (h : Holds payload results) (hplain : ∀ x ∈ results, PlainResult x) :
    ∃ findings, parse payload = .ok findings ∧
      List.Forall₂ Reports (results.filter isReported) findings ∧
      (∀ f ∈ findings, f.severity ≠ .critical ∧ f.description.length ≤ 500) ∧
      (∀ before after payload₁ payload₂, results = before ++ after →
        Holds payload₁ before → Holds payload₂ after →
        ∃ found₁ found₂, parse payload₁ = .ok found₁ ∧ parse payload₂ = .ok found₂ ∧
          findings = found₁ ++ found₂) ∧
      ∀ payload' results', Holds payload' results' →
        results'.filter isReported = results.filter isReported → parse payload' = .ok findings := by
  obtain ⟨findings, hread, hall⟩ := exists_findingsOf hplain
  refine ⟨findings, (parse_of_holds h).trans hread, hall, ?_, ?_, ?_⟩
  · exact forall_right_of_forall₂ hall fun _ _ h => ⟨h.not_critical, h.length_description⟩
  · rintro before after payload₁ payload₂ rfl hbefore hafter
    obtain ⟨hplain₁, hplain₂⟩ := List.forall_mem_append.mp hplain
    obtain ⟨found₁, hread₁, -⟩ := exists_findingsOf hplain₁
    obtain ⟨found₂, hread₂, -⟩ := exists_findingsOf hplain₂
    have happend := findingsOf_append hread₁ hread₂
    exact ⟨found₁, found₂, (parse_of_holds hbefore).trans hread₁,
      (parse_of_holds hafter).trans hread₂, Except.ok.inj (hread.symm.trans happend)⟩
  · intro payload' results' h' hsame
    rw [parse_of_holds h', ← findingsOf_filter, hsame, findingsOf_filter, hread]

/-- A result of high impact: its first element has no place, and the second one a short name. -/
def placedResult : List (Value × Value) := [
  (.str "impact", .str " High\n"),
  (.str "check", .str "reentrancy-eth"),
  (.str "elements", .list [
    .dict [(.str "source_mapping", .null)],
    .dict [(.str "source_mapping", .dict [
      (.str "filename_relative", .str ""), (.str "filename_short", .str "Wallet.sol"),
      (.str "lines", .list [.int 13, .int 14])])]])]

/-- Results of which only one is of known impact. -/
def mixedResults : List Value := [
  .str "High", .dict placedResult, .dict [(.str "impact", .str "Catastrophic")], .null]

/-- The data that holds some results. -/
def payloadOf (results : List Value) : List (Value × Value) :=
  [(.str "results", .dict [(.str "detectors", .list results)])]

lemma plainResult_placed : PlainResult (.dict placedResult) := by
  intro entries hentries
  obtain rfl := Value.dict.inj hentries
  refine .inr (.inr ⟨_, rfl, _, rfl, ?_⟩)
  intro element helement entries hentries
  rcases List.mem_pair.mp helement with rfl | rfl
  · obtain rfl := Value.dict.inj hentries
    exact .inr (.inl rfl)
  · obtain rfl := Value.dict.inj hentries
    refine .inr (.inr ⟨_, rfl, _, rfl, ?_⟩)
    exact {
      relative := .inr (.inr ⟨_, rfl, "", rfl⟩)
      short := .inr (.inr ⟨_, rfl, "Wallet.sol", rfl⟩)
      lines := .inr (.inr ⟨_, rfl, [13, 14], rfl⟩) }

theorem parse_oneByOne_mixedResults :
    Holds (payloadOf mixedResults) mixedResults ∧ (∀ x ∈ mixedResults, PlainResult x) ∧
      ∃ f, parse (payloadOf mixedResults) = .ok [f] ∧ Reports (.dict placedResult) f := by
  have hholds : Holds (payloadOf mixedResults) mixedResults := ⟨_, rfl, rfl⟩
  have hplain : ∀ x ∈ mixedResults, PlainResult x := by
    intro x hx
    simp only [mixedResults, List.mem_cons, List.not_mem_nil, or_false] at hx
    rcases hx with rfl | rfl | rfl | rfl
    · rintro _ ⟨⟩
    · exact plainResult_placed
    · intro entries hentries
      obtain rfl := Value.dict.inj hentries
      exact .inl rfl
    · rintro _ ⟨⟩
  obtain ⟨findings, hread, hall, -⟩ := parse_oneByOne hholds hplain
  have hreported : mixedResults.filter isReported = [.dict placedResult] := rfl
  rw [hreported] at hall
  obtain ⟨f, _, hreports, hrest, rfl⟩ := List.forall₂_cons_left_iff.mp hall
  obtain rfl := List.forall₂_nil_left_iff.mp hrest
  exact ⟨hholds, hplain, f, hread, hreports⟩

example : parse (payloadOf mixedResults) = .ok [{
    check := "reentrancy-eth"
    severity := .high
    confidence := ""
    description := ""
    file? := some "Wallet.sol"
    line? := some 13 }] :=
  rfl

end LineAudit.AnalyzerPayload
