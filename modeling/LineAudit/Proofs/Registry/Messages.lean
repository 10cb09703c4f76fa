import LineAudit.Proofs.Matcher.Path
import LineAudit.Proofs.Registry
import LineAudit.Proofs.Severity.Name

/-!
What is told of the entries of a list from which no registry is made.

For each part of a rule it is said here which lines are told of it, apart from the walk that
collects them. A line names the entry by its index and the rule by its id, and goes on with the
part that is wrong. Main result: the walk collects these lines, one entry after the other.
-/

namespace LineAudit

/-! ### Lines about the items of a list -/

/-- Lines are told of the items of a list, of one item after the other. -/
def ToldInTurn {α : Type} (told : ℕ → α → List String → Prop) (items : List α)
    (lines : List String) : Prop :=
  ∃ parts : List (List String), parts.length = items.length ∧ parts.flatten = lines ∧
    ∀ i x part, items[i]? = some x → parts[i]? = some part → told i x part

lemma eq_map_zipIdx_iff {α β : Type} {items : List α} {parts : List β} {f : ℕ → α → β} :
    parts = items.zipIdx.map (fun q => f q.2 q.1) ↔ parts.length = items.length ∧
      ∀ i x part, items[i]? = some x → parts[i]? = some part → part = f i x := by
  constructor
  · rintro rfl
    refine ⟨by simp, fun i x part hx hpart => ?_⟩
    simpa [hx, eq_comm] using hpart
  · rintro ⟨hlength, h⟩
    refine List.ext_getElem (by simpa using hlength) fun i hi hi' => ?_
    have hitem : i < items.length := hlength ▸ hi
    rw [List.getElem_map, List.getElem_zipIdx, Nat.zero_add]
    exact h i _ _ (List.getElem?_eq_getElem hitem) (List.getElem?_eq_getElem hi)

lemma toldInTurn_iff {α : Type} {told : ℕ → α → List String → Prop} {f : ℕ → α → List String}
    {items : List α} (h : ∀ i x part, items[i]? = some x → (told i x part ↔ part = f i x))
    (lines : List String) :
    ToldInTurn told items lines ↔ lines = items.zipIdx.flatMap fun q => f q.2 q.1 := by
  rw [List.flatMap_def]
  constructor
  · rintro ⟨parts, hlength, rfl, htold⟩
    congr 1
    exact eq_map_zipIdx_iff.mpr ⟨hlength, fun i x part hx hpart =>
      (h i x part hx).mp (htold i x part hx hpart)⟩
  · rintro rfl
    obtain ⟨hlength, heach⟩ := eq_map_zipIdx_iff.mp (Eq.refl (items.zipIdx.map fun q => f q.2 q.1))
    exact ⟨_, hlength, rfl, fun i x part hx hpart =>
      (h i x part hx).mpr (heach i x part hx hpart)⟩

/-! ### Trees of matchers -/

lemma Problem.text_regex (problem : RegexProblem) :
    text (.regex problem) = ": " ++ problem.message :=
  rfl

lemma Problem.text_noAlternative (joint : Joint) :
    text (.noAlternative joint) = "." ++ joint.key ++ ": expected at least one alternative" := rfl

lemma Problem.text_notMatcher (kind : String) :
    text (.notMatcher kind) = ": expected Matcher, got " ++ kind := rfl

lemma RegexProblem.message_malformed (s : String) (fault : Pattern.Fault) (position? : Option ℕ) :
    message (.malformed s fault position?) =
      "invalid regex " ++ Text.quoted s ++ ": " ++ Pattern.faultText s fault position? := rfl

/-- What is told of a regular expression at a place. -/
inductive Regex.Told (place : String) (r : Regex) : List String → Prop
  | pattern {s : String} {program : Pattern.Compiled} (hs : r.pattern = .str s) (hne : s ≠ "")
      (h : Pattern.compile s r.ignoreCase = .ok program) : Told place r []
  | notText (h : ∀ s, r.pattern = .str s → s = "") :
      Told place r [place ++ ": regex must be a non-empty string"]
  | malformed {s : String} {fault : Pattern.Fault} {position? : Option ℕ}
      (hs : r.pattern = .str s) (hne : s ≠ "")
      (h : Pattern.compile s r.ignoreCase = .error (.malformed fault position?)) :
      Told place r [place ++ ": invalid regex " ++ Text.quoted s ++ ": " ++
        Pattern.faultText s fault position?]

/-- What is told of a matcher at a place: of its root, or of its children in turn. -/
inductive Matcher.Told : String → Matcher → List String → Prop
  | literal {place : String} (mark : ℕ) {s : String} (hne : s ≠ "") :
      Told place (.literal mark (.str s)) []
  | emptyLiteral {place : String} (mark : ℕ) {v : Value} (h : ∀ s, v = .str s → s = "") :
      Told place (.literal mark v) [place ++ ": literal must be a non-empty string"]
  | regex {place : String} (mark : ℕ) {r : Regex} {lines : List String} (h : r.Told place lines) :
      Told place (.regex mark r) lines
  | alarmed {place : String} (mark : ℕ) (trigger : String) (failure : Failure) {r : Regex}
      {lines : List String} (h : r.Told place lines) :
      Told place (.alarmed mark trigger failure r) lines
  | foreign {place : String} (v : Value) :
      Told place (.foreign v) [place ++ ": expected Matcher, got " ++ v.kindName]
  | noChild {place : String} (joint : Joint) (mark : ℕ) :
      Told place (joint.node mark [])
        [place ++ "." ++ joint.key ++ ": expected at least one alternative"]
  | children {place : String} (joint : Joint) (mark : ℕ) {children : List Matcher}
      {parts : List (List String)} (hne : children ≠ []) (hlength : parts.length = children.length)
      (h : ∀ (i : ℕ) child part, children[i]? = some child → parts[i]? = some part →
        Told s!"{place}.{joint.key}[{i}]" child part) :
      Told place (joint.node mark children) parts.flatten

lemma Matcher.exists_foreign {m : Matcher} (h : m.foreignKind? ≠ none) : ∃ v, m = .foreign v := by
  cases m with
  | foreign v => exact ⟨v, rfl⟩
  | literal | regex | any | all | alarmed => exact absurd rfl h

lemma Complaint.message_root (place : String) (problem : Problem) :
    Complaint.message place ⟨[], problem⟩ = place ++ problem.text := by
  simp [message, NodePath.text]

lemma Matcher.messages_complain (problem : Problem) (place : String) :
    (complain problem).map (Complaint.message place) = [place ++ problem.text] := by
  rw [complain, List.map_singleton, Complaint.message_root]

lemma Complaint.message_under (place : String) (joint : Joint) (index : ℕ) (c : Complaint) :
    (c.under ⟨joint, index⟩).message place = c.message s!"{place}.{joint.key}[{index}]" := by
  apply String.toList_injective
  simp [message, under, NodePath.toList_text, NodeStep.text, toString]

namespace Regex

lemma Told.complaints_eq {place : String} {r : Regex} {lines : List String}
    (h : r.Told place lines) :
    (Matcher.regexComplaints r).map (Complaint.message place) = lines := by
  have hcomplaints {problem : RegexProblem}
      (hread : readRegex r.pattern r.ignoreCase = .ok (.error problem)) :
      Matcher.regexComplaints r = Matcher.complain (.regex problem) := by
    have hproblem : r.problem? = some problem := by
      rw [problem?, Except.ok.inj (r.read_eq.symm.trans hread)]
    rw [Matcher.regexComplaints, hproblem]
  cases h with
  | pattern hs hne h =>
    have hnone := problem?_eq_none_iff_compiles.mpr ⟨_, hs, hne, _, h⟩
    rw [Matcher.regexComplaints_eq_nil_iff.mpr hnone, List.map_nil]
  | notText h =>
    rw [hcomplaints (readRegex_eq_problem_iff.mpr (.inl ⟨rfl, h⟩)), Matcher.messages_complain]
    rfl
  | malformed hs hne h =>
    have hwords : ": " ++ "invalid regex " = ": invalid regex " := by decide
    rw [hcomplaints (readRegex_eq_problem_iff.mpr (.inr ⟨_, _, _, rfl, hs, hne, h⟩)),
      Matcher.messages_complain, Problem.text_regex, RegexProblem.message_malformed, ← hwords]
    simp only [String.append_assoc]

lemma exists_told (place : String) (r : Regex) : ∃ lines, r.Told place lines := by
  have hread := r.read_eq
  cases h : r.program with
  | ok program =>
    obtain ⟨s, hs, hne, hc⟩ := readRegex_eq_program_iff.mp (h ▸ hread)
    exact ⟨_, .pattern hs hne hc⟩
  | error problem =>
    obtain ⟨-, hno⟩ | ⟨s, fault, position?, -, hs, hne, hc⟩ :=
      readRegex_eq_problem_iff.mp (h ▸ hread)
    · exact ⟨_, .notText hno⟩
    · exact ⟨_, .malformed hs hne hc⟩

end Regex

namespace Matcher

lemma childComplaints_eq (joint : Joint) (index : ℕ) (children : List Matcher) :
    childComplaints joint index children = (children.zipIdx index).flatMap fun q =>
      q.1.complaints.map (Complaint.under ⟨joint, q.2⟩) := by
  induction children generalizing index with
  | nil => rfl
  | cons m rest ih => rw [childComplaints, ih, List.zipIdx_cons, List.flatMap_cons]

/-- The complaints about a joint in words are those about its children, at the places of these. -/
lemma messages_node {children : List Matcher} (joint : Joint) (mark : ℕ) (hne : children ≠ [])
    (place : String) :
    (joint.node mark children).complaints.map (Complaint.message place) =
      (children.zipIdx.map fun q =>
        q.1.complaints.map (Complaint.message s!"{place}.{joint.key}[{q.2}]")).flatten := by
  rw [complaints_node joint mark hne, childComplaints_eq, List.map_flatMap, List.flatMap_def]
  congr 1
  refine List.map_congr_left fun q _ => ?_
  rw [List.map_map]
  exact List.map_congr_left fun c _ => Complaint.message_under place joint q.2 c

lemma complaints_noChild (joint : Joint) (mark : ℕ) :
    (joint.node mark []).complaints = complain (.noAlternative joint) := by
  cases joint <;> rw [Joint.node, complaints]

lemma complaints_emptyLiteral {v : Value} (h : ∀ s, v = .str s → s = "") (mark : ℕ) :
    (literal mark v).complaints = complain .emptyLiteral := by
  rw [complaints]
  unfold literalComplaints
  split
  next s => simp [h s rfl]
  next => rfl

lemma Told.complaints_eq {place : String} {m : Matcher} {lines : List String}
    (h : m.Told place lines) : m.complaints.map (Complaint.message place) = lines := by
  induction h with
  | literal mark hne => simp [complaints, literalComplaints, hne]
  | emptyLiteral mark h =>
    rw [complaints_emptyLiteral h, messages_complain]
    rfl
  | regex mark h => rw [complaints, h.complaints_eq]
  | alarmed mark trigger failure h => rw [complaints, h.complaints_eq]
  | foreign v =>
    rw [complaints_foreign, messages_complain, Problem.text_notMatcher, ← String.append_assoc]
  | noChild joint mark =>
    rw [complaints_noChild, messages_complain, Problem.text_noAlternative]
    simp only [← String.append_assoc]
  | children joint mark hne hlength h ih =>
    rw [messages_node joint mark hne]
    congr 1
    exact (eq_map_zipIdx_iff.mpr ⟨hlength, fun i child part hchild hpart =>
      (ih i child part hchild hpart).symm⟩).symm

lemma exists_told (m : Matcher) (place : String) : ∃ lines, m.Told place lines := by
  induction m using inductionOn generalizing place with
  | literal mark v =>
    by_cases h : ∃ s, v = .str s ∧ s ≠ ""
    · obtain ⟨s, rfl, hne⟩ := h
      exact ⟨_, .literal mark hne⟩
    · exact ⟨_, .emptyLiteral mark (by simpa using h)⟩
  | regex mark r =>
    obtain ⟨lines, h⟩ := r.exists_told place
    exact ⟨_, .regex mark h⟩
  | alarmed mark trigger failure r =>
    obtain ⟨lines, h⟩ := r.exists_told place
    exact ⟨_, .alarmed mark trigger failure h⟩
  | foreign v => exact ⟨_, .foreign v⟩
  | node joint mark children ih =>
    by_cases hne : children = []
    · subst hne
      exact ⟨_, .noChild joint mark⟩
    · let messages (i : ℕ) (child : Matcher) : List String :=
        child.complaints.map (Complaint.message s!"{place}.{joint.key}[{i}]")
      have hmap : children.zipIdx.map (fun q => messages q.2 q.1) =
        children.zipIdx.map fun q => messages q.2 q.1 := rfl
      obtain ⟨hlength, hparts⟩ := (eq_map_zipIdx_iff (f := messages)).mp hmap
      refine ⟨_, .children joint mark hne hlength fun i child part hchild hpart => ?_⟩
      obtain ⟨lines, h⟩ := ih child (List.mem_of_getElem? hchild) s!"{place}.{joint.key}[{i}]"
      obtain rfl : messages i child = lines := h.complaints_eq
      exact hparts i child part hchild hpart ▸ h

end Matcher

/-! ### The parts of a rule -/

/-- What is told of the value in the place of an id, which may be the id of an earlier rule. -/
inductive ToldOfId (repeated : Prop) : Value → List String → Prop
  | first {s : String} (hs : Text.isAllBlank s = false) (h : ¬ repeated) :
      ToldOfId repeated (.str s) []
  | again {s : String} (hs : Text.isAllBlank s = false) (h : repeated) :
      ToldOfId repeated (.str s) ["duplicate rule id '" ++ s ++ "'"]
  | empty {v : Value} (h : ∀ s, v = .str s → Text.isAllBlank s = true) :
      ToldOfId repeated v ["id must be a non-empty string"]

lemma ToldOfId.unique {repeated : Prop} {v : Value} {lines lines' : List String}
    (h : ToldOfId repeated v lines) (h' : ToldOfId repeated v lines') : lines = lines' := by
  cases h with
  | first hs h =>
    cases h' with
    | first => rfl
    | again _ h' => exact absurd h' h
    | empty h' => simp [h' _ rfl] at hs
  | again hs h =>
    cases h' with
    | first _ h' => exact absurd h h'
    | again => rfl
    | empty h' => simp [h' _ rfl] at hs
  | empty h =>
    cases h' with
    | first hs => simp [h _ rfl] at hs
    | again hs => simp [h _ rfl] at hs
    | empty => rfl

/-- What is told of what stands in the place of a severity. -/
inductive SeverityMark.Told : SeverityMark → List String → Prop
  | level (s : Severity) : Told (.level s) []
  | name {name : String} {s : Severity} (h : Severity.parse name = .ok s) :
      Told (.raw (.str name)) []
  | unknown {name : String} (h : ∀ s, Severity.parse name ≠ .ok s) :
      Told (.raw (.str name)) ["unknown severity '" ++ name ++
        "' (valid: critical, high, medium, low, informational)"]
  | notText {v : Value} (h : ∀ name, v ≠ .str name) :
      Told (.raw v) ["severity must be a string, got " ++ v.kindName]

/-- What is told of what stands in the place of the matcher of a rule. -/
inductive ToldOfMatcher : Matcher → List String → Prop
  | missing : ToldOfMatcher (.foreign .null) ["missing matcher"]
  | foreign {v : Value} (h : v ≠ .null) :
      ToldOfMatcher (.foreign v) ["matcher must be a Matcher, got " ++ v.kindName]
  | tree {m : Matcher} {lines : List String} (hm : m.foreignKind? = none)
      (h : m.Told "matcher" lines) : ToldOfMatcher m lines

/-- What is told of an exclusion at an index. -/
inductive ToldOfExclusion (index : ℕ) : Matcher → List String → Prop
  | foreign (v : Value) :
      ToldOfExclusion index (.foreign v)
        [s!"exclusions[{index}] must be a Matcher, got " ++ v.kindName]
  | tree {m : Matcher} {lines : List String} (hm : m.foreignKind? = none)
      (h : m.Told s!"exclusions[{index}]" lines) : ToldOfExclusion index m lines

/-- What is told of what stands in the place of exclusions. -/
inductive Exclusions.Told : Exclusions → List String → Prop
  | items {exclusions : Exclusions} {items : List Matcher} {lines : List String}
      (hitems : exclusions = .list items ∨ exclusions = .tuple items)
      (h : ToldInTurn ToldOfExclusion items lines) : Told exclusions lines
  | foreign (v : Value) : Told (.foreign v) ["exclusions must be a list, got " ++ v.kindName]

/-- What is told of an entry at an index. -/
inductive Entry.Told (index : ℕ) (repeated : Prop) : Entry → List String → Prop
  | foreign (v : Value) :
      Told index repeated (.foreign v) [s!"rules[{index}]: expected Rule, got {v.kindName}"]
  | rule {d : Draft} {name : String} {ids severities matchers exclusions : List String}
      (hname : name = if d.id.isTrue then d.id.text else "?") (hid : ToldOfId repeated d.id ids)
      (hseverity : d.severity.Told severities) (hmatcher : ToldOfMatcher d.matcher matchers)
      (hexclusions : d.exclusions.Told exclusions) :
      Told index repeated (.draft d) ((ids ++ severities ++ matchers ++ exclusions).map fun line =>
        s!"rules[{index}] (id={name}): " ++ line)

/-- A relation that holds of something holds of nothing else, if it settles of what it holds. -/
lemma iff_eq_of_exists {β : Type} {R : β → Prop} {b : β} (hex : ∃ x, R x)
    (heq : ∀ x, R x → b = x) (x : β) : R x ↔ b = x := by
  refine ⟨heq x, ?_⟩
  rintro rfl
  obtain ⟨x, hx⟩ := hex
  exact heq x hx ▸ hx

namespace Draft

variable {d : Draft}

lemma id?_eq_none_iff : d.id? = none ↔ ∀ s, d.id = .str s → Text.isAllBlank s = true := by
  simp [Option.eq_none_iff_forall_ne_some, id?_eq_some_iff]

lemma toldOfId_iff (seen lines : List String) :
    ToldOfId (∃ id ∈ seen, d.id? = some id) d.id lines ↔
      (d.idProblems seen).map RuleProblem.text = lines := by
  refine iff_eq_of_exists ?_ (fun lines h => ?_) lines
  · cases h : d.id? with
    | none => exact ⟨_, .empty (id?_eq_none_iff.mp h)⟩
    | some id =>
      obtain ⟨hid, hs⟩ := id?_eq_some_iff.mp h
      rw [hid]
      by_cases hmem : id ∈ seen
      · exact ⟨_, .again hs ⟨id, hmem, rfl⟩⟩
      · exact ⟨_, .first hs (by simpa using hmem)⟩
  · generalize hid : d.id = v at h
    cases h with
    | first hs h =>
      have hsome := id?_eq_some_iff.mpr ⟨hid, hs⟩
      have hnew : _ ∉ seen := fun hmem => h ⟨_, hmem, hsome⟩
      have hnone : d.idProblems seen = [] := by simp [idProblems, hsome, hnew]
      rw [hnone, List.map_nil]
    | @again s hs h =>
      have hsome := id?_eq_some_iff.mpr ⟨hid, hs⟩
      obtain ⟨id, hmem, hid'⟩ := h
      obtain rfl := Option.some.inj (hsome.symm.trans hid')
      have hone : d.idProblems seen = [.duplicateId s] := by simp [idProblems, hsome, hmem]
      rw [hone]
      rfl
    | empty h =>
      subst hid
      have hone : d.idProblems seen = [.emptyId] := by
        rw [idProblems, id?_eq_none_iff.mpr h]
      rw [hone]
      rfl

lemma toldOfSeverity_iff (lines : List String) :
    d.severity.Told lines ↔ d.severityProblems.map RuleProblem.text = lines := by
  have hok {s : Severity} (h : d.severity.read = .ok s) : d.severityProblems = [] := by
    rw [severityProblems, h]
  have herror {e : SeverityError} (h : d.severity.read = .error e) :
      d.severityProblems.map RuleProblem.text = [e.message] := by
    rw [severityProblems, h]
    rfl
  refine iff_eq_of_exists ?_ (fun lines h => ?_) lines
  · match d.severity with
    | .level s => exact ⟨_, .level s⟩
    | .raw v =>
      by_cases hstr : ∃ name, v = .str name
      · obtain ⟨name, rfl⟩ := hstr
        by_cases hname : ∃ s, Severity.parse name = .ok s
        · obtain ⟨s, h⟩ := hname
          exact ⟨_, .name h⟩
        · exact ⟨_, .unknown (not_exists.mp hname)⟩
      · exact ⟨_, .notText (not_exists.mp hstr)⟩
  · generalize hmark : d.severity = mark at h
    cases h with
    | level s => rw [hok (by rw [hmark]; rfl), List.map_nil]
    | name h => rw [hok (by rw [hmark]; exact h), List.map_nil]
    | @unknown name h =>
      have hread : d.severity.read = .error (.unknown name) := by
        rw [hmark, SeverityMark.read, Severity.ofValue]
        exact Severity.parse_eq_error_iff.mpr h
      rw [herror hread, Severity.message_unknown]
    | @notText v h =>
      have hread : d.severity.read = .error (.notText v.kindName) := by
        rw [hmark, SeverityMark.read]
        unfold Severity.ofValue
        split
        next name => exact absurd rfl (h name)
        next => rfl
      rw [herror hread]
      rfl

/-- What is told of a tree is what is told of it as part of a rule. -/
lemma map_text_complaints {problem : Complaint → RuleProblem} {place : String}
    (h : ∀ c, (problem c).text = c.message place) (m : Matcher) :
    (m.complaints.map problem).map RuleProblem.text =
      m.complaints.map (Complaint.message place) := by
  rw [List.map_map]
  exact List.map_congr_left fun c _ => h c

lemma matcherProblems_of_matcher (h : d.matcher.foreignKind? = none) :
    d.matcherProblems = d.matcher.complaints.map .matcher := by
  unfold matcherProblems
  split
  next hm => simp [hm, Matcher.foreignKind?] at h
  next hm => simp [hm, Matcher.foreignKind?] at h
  next => rfl

lemma matcherProblems_of_foreign {v : Value} (hv : v ≠ .null) (h : d.matcher = .foreign v) :
    d.matcherProblems = [.notMatcher v.kindName] := by
  unfold matcherProblems
  rw [h]
  split
  next hm => exact absurd (Matcher.foreign.inj hm) hv
  next hm => rw [Matcher.foreign.inj hm]
  next hno => exact absurd rfl (hno v)

lemma toldOfMatcher_iff (lines : List String) :
    ToldOfMatcher d.matcher lines ↔ d.matcherProblems.map RuleProblem.text = lines := by
  refine iff_eq_of_exists ?_ (fun lines h => ?_) lines
  · by_cases hm : d.matcher.foreignKind? = none
    · obtain ⟨lines, h⟩ := d.matcher.exists_told "matcher"
      exact ⟨lines, .tree hm h⟩
    · obtain ⟨v, hv⟩ := Matcher.exists_foreign hm
      rw [hv]
      by_cases hnull : v = .null
      · subst hnull
        exact ⟨_, .missing⟩
      · exact ⟨_, .foreign hnull⟩
  · generalize hmatcher : d.matcher = m at h
    cases h with
    | missing =>
      rw [matcherProblems, hmatcher]
      rfl
    | foreign hv =>
      rw [matcherProblems_of_foreign hv hmatcher]
      rfl
    | tree hm h =>
      subst hmatcher
      rw [matcherProblems_of_matcher hm, map_text_complaints (fun _ => rfl)]
      exact h.complaints_eq

/-- What is wrong with the exclusion at an index. -/
def exclusionProblemsAt (index : ℕ) (m : Matcher) : List RuleProblem :=
  match m.foreignKind? with
  | some kind => [.exclusionNotMatcher index kind]
  | none => m.complaints.map (.exclusion index)

lemma exclusionListProblems_eq (index : ℕ) (ms : List Matcher) :
    exclusionListProblems index ms =
      (ms.zipIdx index).flatMap fun q => exclusionProblemsAt q.2 q.1 := by
  induction ms generalizing index with
  | nil => rfl
  | cons m rest ih =>
    rw [List.zipIdx_cons, List.flatMap_cons, ← ih]
    cases m <;> rfl

lemma toldOfExclusion_iff (index : ℕ) (m : Matcher) (lines : List String) :
    ToldOfExclusion index m lines ↔
      (exclusionProblemsAt index m).map RuleProblem.text = lines := by
  refine iff_eq_of_exists ?_ (fun lines h => ?_) lines
  · by_cases hm : m.foreignKind? = none
    · obtain ⟨lines, h⟩ := m.exists_told s!"exclusions[{index}]"
      exact ⟨lines, .tree hm h⟩
    · obtain ⟨v, rfl⟩ := Matcher.exists_foreign hm
      exact ⟨_, .foreign v⟩
  · cases h with
    | foreign v => rfl
    | tree hm h =>
      rw [exclusionProblemsAt, hm, map_text_complaints (fun _ => rfl)]
      exact h.complaints_eq

lemma exclusionProblems_of_items {items : List Matcher}
    (h : d.exclusions = .list items ∨ d.exclusions = .tuple items) :
    d.exclusionProblems.map RuleProblem.text =
      items.zipIdx.flatMap fun q => (exclusionProblemsAt q.2 q.1).map RuleProblem.text := by
  have hitems : d.exclusionProblems = exclusionListProblems 0 items := by
    unfold exclusionProblems
    rcases h with h | h <;> rw [h]
  rw [hitems, exclusionListProblems_eq, List.map_flatMap]

lemma toldInTurn_exclusions_iff (items : List Matcher) (lines : List String) :
    ToldInTurn ToldOfExclusion items lines ↔
      lines = items.zipIdx.flatMap fun q => (exclusionProblemsAt q.2 q.1).map RuleProblem.text :=
  toldInTurn_iff (fun i m part _ => (toldOfExclusion_iff i m part).trans eq_comm) lines

lemma toldOfExclusions_iff (lines : List String) :
    d.exclusions.Told lines ↔ d.exclusionProblems.map RuleProblem.text = lines := by
  refine iff_eq_of_exists ?_ (fun lines h => ?_) lines
  · match d.exclusions with
    | .list items =>
      exact ⟨_, .items (.inl rfl) ((toldInTurn_exclusions_iff items _).mpr rfl)⟩
    | .tuple items =>
      exact ⟨_, .items (.inr rfl) ((toldInTurn_exclusions_iff items _).mpr rfl)⟩
    | .foreign v => exact ⟨_, .foreign v⟩
  · generalize hexclusions : d.exclusions = exclusions at h
    cases h with
    | items hitems h =>
      subst hexclusions
      rw [exclusionProblems_of_items hitems, (toldInTurn_exclusions_iff _ _).mp h]
    | foreign v =>
      rw [exclusionProblems, hexclusions]
      rfl

end Draft

/-! ### Entries -/

namespace Entry

/-- The id of an entry, when it is a draft with a text for an id that is not blank. -/
def id? : Entry → Option String
  | .draft d => d.id?
  | .foreign _ => none

/-- What is wrong with an entry at an index, where `before` holds the ids before it. -/
def problems (index : ℕ) (before : List String) : Entry → List EntryProblem
  | .draft d => (d.idProblems before ++ d.ownProblems).map (.rule index d.label)
  | .foreign v => [.notRule index "Rule" v.kindName]

/-- The ids of the entries before a place. -/
def idsBefore (entries : List Entry) (place : ℕ) : List String :=
  (entries.take place).filterMap id?

lemma entryProblems_cons (index : ℕ) (seen : List String) (e : Entry) (rest : List Entry) :
    entryProblems index seen (e :: rest) =
      e.problems index seen ++ entryProblems (index + 1) (seen ++ e.id?.toList) rest := by
  cases e with
  | draft d => rfl
  | foreign v => rw [entryProblems, id?, Option.toList_none, List.append_nil]; rfl

/-- The walk over the entries reports what is wrong with each of them; the ids in `seen` come before
all of theirs. -/
lemma entryProblems_eq (index : ℕ) (seen : List String) (entries : List Entry) :
    entryProblems index seen entries = (entries.zipIdx index).flatMap fun q =>
      q.1.problems q.2 (seen ++ idsBefore entries (q.2 - index)) := by
  induction entries generalizing index seen with
  | nil => rfl
  | cons e rest ih =>
    have hfirst : idsBefore (e :: rest) (index - index) = [] := by simp [idsBefore]
    rw [entryProblems_cons, ih, List.zipIdx_cons, List.flatMap_cons, hfirst, List.append_nil]
    congr 1
    refine List.flatMap_congr fun q hq => ?_
    -- an entry after `e` has one place more before it, that of `e`
    have hplace := (List.mem_zipIdx hq).1
    have hids : idsBefore (e :: rest) (q.2 - index) =
        e.id?.toList ++ idsBefore rest (q.2 - (index + 1)) := by
      obtain ⟨k, hk⟩ := Nat.exists_eq_add_of_le hplace
      have hsucc : q.2 - index = k + 1 := by omega
      have hpred : q.2 - (index + 1) = k := by omega
      rw [hsucc, hpred, idsBefore, idsBefore, List.take_succ_cons]
      cases h : e.id? <;> simp [h]
    rw [hids, List.append_assoc]

lemma mem_idsBefore {entries : List Entry} {place : ℕ} {id : String} :
    id ∈ idsBefore entries place ↔ ∃ j < place, ∃ e, entries[j]? = some e ∧ e.id? = some id := by
  rw [idsBefore, List.mem_filterMap]
  constructor
  · rintro ⟨e, hmem, hid⟩
    obtain ⟨j, hj, rfl⟩ := List.mem_take_iff_getElem.mp hmem
    exact ⟨j, by omega, _, List.getElem?_eq_getElem (by omega), hid⟩
  · rintro ⟨j, hj, e, he, hid⟩
    refine ⟨e, List.mem_iff_getElem?.mpr ⟨j, ?_⟩, hid⟩
    rw [List.getElem?_take_of_lt hj, he]

lemma told_iff (index : ℕ) (before : List String) (e : Entry) (lines : List String) :
    e.Told index (∃ id ∈ before, e.id? = some id) lines ↔
      (e.problems index before).map EntryProblem.text = lines := by
  refine iff_eq_of_exists ?_ (fun lines h => ?_) lines
  · cases e with
    | foreign v => exact ⟨_, .foreign v⟩
    | draft d =>
      exact ⟨_, .rule rfl ((d.toldOfId_iff before _).mpr rfl) ((d.toldOfSeverity_iff _).mpr rfl)
        ((d.toldOfMatcher_iff _).mpr rfl) ((d.toldOfExclusions_iff _).mpr rfl)⟩
  · cases h with
    | foreign v =>
      have hwords : "]: expected " ++ "Rule" ++ ", got " = "]: expected Rule, got " := by decide
      rw [problems, List.map_singleton, EntryProblem.text, ← hwords]
      simp only [toString, String.append_assoc]
    | @rule d _ _ _ _ _ hname hid hseverity hmatcher hexclusions =>
      rw [problems, Draft.ownProblems, ← (d.toldOfId_iff before _).mp hid,
        ← (d.toldOfSeverity_iff _).mp hseverity, ← (d.toldOfMatcher_iff _).mp hmatcher,
        ← (d.toldOfExclusions_iff _).mp hexclusions, hname]
      simp only [← List.map_append, List.map_map, List.append_assoc]
      rfl

/-- The id of the entry at a place is that of an entry before it. -/
def RepeatedAt (entries : List Entry) (place : ℕ) : Prop :=
  ∃ j < place, ∃ earlier e id, entries[j]? = some earlier ∧ entries[place]? = some e ∧
    earlier.id? = some id ∧ e.id? = some id

/-- **The problems of entries in words are what is told of them, one entry after the other.** -/
theorem toldInTurn_iff_entryProblems (entries : List Entry) (lines : List String) :
    ToldInTurn (fun i e => e.Told i (RepeatedAt entries i)) entries lines ↔
      lines = (entryProblems 0 [] entries).map EntryProblem.text := by
  rw [entryProblems_eq, List.map_flatMap]
  let words (i : ℕ) (e : Entry) : List String :=
    (e.problems i ([] ++ idsBefore entries (i - 0))).map EntryProblem.text
  refine toldInTurn_iff (f := words) (fun i e part he => ?_) lines
  rw [eq_comm, ← told_iff, List.nil_append, Nat.sub_zero]
  have hrepeated : RepeatedAt entries i ↔ ∃ id ∈ idsBefore entries i, e.id? = some id := by
    simp only [RepeatedAt, mem_idsBefore, he]
    constructor
    · rintro ⟨j, hj, earlier, e', id, hearlier, he', hid, hid'⟩
      obtain rfl := Option.some.inj he'
      exact ⟨id, ⟨j, hj, earlier, hearlier, hid⟩, hid'⟩
    · rintro ⟨id, ⟨j, hj, earlier, hearlier, hid⟩, hid'⟩
      exact ⟨j, hj, earlier, e, id, hearlier, rfl, hid, hid'⟩
  rw [propext hrepeated]

end Entry

end LineAudit
