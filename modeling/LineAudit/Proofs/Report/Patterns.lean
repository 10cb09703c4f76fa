import LineAudit.Proofs.Report.Figures
import LineAudit.Proofs.Scan.Locality
import LineAudit.Proofs.Text.Blank
import LineAudit.Report.Patterns

/-!
The listing of findings can be read back.

The findings of a scan fall into groups by rule, and a listing has a block for each group. Neither a
heading nor the line of a finding is ever empty, so that an empty line only stands between two
blocks. Main result: every scan can be listed, nothing is lost or told twice, and cutting the
listing at its empty lines gives the groups again.
-/

namespace LineAudit

variable {σ : Type}

/-! ### Groups of findings -/

/-- The order of findings by file and line. -/
def Finding.UpTo (x y : Finding σ) : Prop := x.file < y.file ∨ x.file = y.file ∧ x.line ≤ y.line

/-- Findings are parted by rule: each rule that has findings comes once, in the order of the rules,
and with all its findings in order. -/
structure PartedByRule (rules : List (Rule σ)) (findings : List (Finding σ))
    (groups : List (Rule σ × List (Finding σ))) : Prop where
  rules_eq : groups.map Prod.fst = rules.filter fun r => findings.any fun x => x.ruleId = r.id
  nonempty : ∀ g ∈ groups, g.2 ≠ []
  findings_eq : ∀ g ∈ groups, g.2 = findings.filter fun x => x.ruleId = g.1.id
  ordered : ∀ g ∈ groups, g.2.Pairwise Finding.UpTo
  perm : (groups.flatMap Prod.snd).Perm findings

lemma findings_ordered (rules : List (Rule σ)) (files : List SourceFile) :
    (Engine.found rules files).findings.Pairwise Finding.UpTo := by
  rw [findings_found, Placed.sorted, List.pairwise_map]
  have hsorted := List.pairwise_mergeSort Placed.trans Placed.total
    (picked FileScan.Visit.hit? rules files).flatten
  have hplace : ∀ x ∈ (picked FileScan.Visit.hit? rules files).flatten.mergeSort Placed.le,
      x.item.file = x.file ∧ x.item.line = x.line := by
    intro x hx
    obtain ⟨f, -, v, -, hv⟩ := mem_picked_flatten.mp (List.mem_mergeSort.mp hx)
    obtain ⟨hfile, hline, -⟩ := keepsPlace_hit _ _ _ hv
    rw [tellsPlace_hit.file _ _ _ hv, tellsPlace_hit.line _ _ _ hv, hfile, hline]
    exact ⟨rfl, rfl⟩
  refine hsorted.imp_of_mem fun {x y} hx hy hle => ?_
  rw [Finding.UpTo, (hplace x hx).1, (hplace x hx).2, (hplace y hy).1, (hplace y hy).2]
  simp only [Placed.le, Bool.or_eq_true, Bool.and_eq_true, decide_eq_true_eq, beq_iff_eq] at hle
  rcases hle with hfile | ⟨hfile, hline | ⟨hline, -⟩⟩
  · exact .inl hfile
  · exact .inr ⟨hfile, hline.le⟩
  · exact .inr ⟨hfile, hline.le⟩

/-- Findings whose rules are all there are the findings of the single rules, one after the other. -/
lemma flatMap_findings_perm {rules : List (Rule σ)} (hids : (rules.map Rule.id).Nodup)
    {findings : List (Finding σ)} (hknown : ∀ x ∈ findings, ∃ r ∈ rules, r.id = x.ruleId) :
    (rules.flatMap fun r => findings.filter fun x => x.ruleId = r.id).Perm findings := by
  induction rules generalizing findings with
  | nil =>
    cases findings with
    | nil => exact .refl _
    | cons x rest => simpa using hknown x (by simp)
  | cons r rules ih =>
    obtain ⟨hr, hids⟩ := List.nodup_cons.mp hids
    -- the rules after the first one find what the first one leaves
    have hleft : ∀ x ∈ findings.filter fun x => ¬ x.ruleId = r.id,
        ∃ r ∈ rules, r.id = x.ruleId := by
      intro x hx
      obtain ⟨hx, hne⟩ := List.mem_filter.mp hx
      obtain ⟨r', hr', hid⟩ := hknown x hx
      rcases List.mem_cons.mp hr' with rfl | hr'
      · simp [hid] at hne
      · exact ⟨r', hr', hid⟩
    have hrest := ih hids hleft
    have hsame : (rules.flatMap fun r' => (findings.filter fun x => ¬ x.ruleId = r.id).filter
        fun x => x.ruleId = r'.id) =
        rules.flatMap fun r' => findings.filter fun x => x.ruleId = r'.id := by
      refine List.flatMap_congr fun r' hr' => ?_
      have hne : r'.id ≠ r.id := fun h => hr (h ▸ List.mem_map_of_mem hr')
      rw [List.filter_filter]
      refine List.filter_congr fun x _ => ?_
      by_cases h : x.ruleId = r'.id
      · simp [h, hne]
      · simp [h]
    rw [List.flatMap_cons, ← hsame]
    refine (hrest.append_left _).trans ?_
    simpa using List.filter_append_perm (fun x : Finding σ => decide (x.ruleId = r.id)) findings

lemma exists_partedByRule {rules : List (Rule σ)} (hids : (rules.map Rule.id).Nodup)
    (files : List SourceFile) :
    ∃ groups, groupByRule? rules (Engine.found rules files).findings = some groups ∧
      PartedByRule rules (Engine.found rules files).findings groups := by
  have hordered := findings_ordered rules files
  have hknown : ∀ x ∈ (Engine.found rules files).findings, ∃ r ∈ rules, r.id = x.ruleId := by
    intro x hx
    obtain ⟨r, hr, hid, -⟩ := Engine.rule_of_finding hx
    exact ⟨r, hr, hid⟩
  generalize (Engine.found rules files).findings = findings at hordered hknown
  have hall : (findings.all fun f => rules.any fun r => r.id == f.ruleId) = true := by
    simpa [List.all_eq_true, List.any_eq_true] using hknown
  have hown : ∀ g ∈ (rules.map fun r => (r, findings.filter fun x => x.ruleId = r.id)).filter
      (fun g => !g.2.isEmpty), g.2 ≠ [] ∧ g.2 = findings.filter fun x => x.ruleId = g.1.id := by
    intro g hg
    obtain ⟨hg, hne⟩ := List.mem_filter.mp hg
    obtain ⟨r, -, rfl⟩ := List.mem_map.mp hg
    exact ⟨by simpa using hne, rfl⟩
  refine ⟨_, if_pos hall, ?_, fun g hg => (hown g hg).1, fun g hg => (hown g hg).2,
    fun g hg => ?_, ?_⟩
  · rw [List.filter_map, List.map_map]
    refine (List.map_id _).trans (List.filter_congr fun r _ => ?_)
    rw [Bool.eq_iff_iff]
    simp
  · rw [(hown g hg).2]
    exact hordered.filter _
  · rw [flatMap_nonempty, List.flatMap_map]
    exact flatMap_findings_perm hids hknown

namespace PartedByRule

variable {rules : List (Rule σ)} {findings : List (Finding σ)}
  {groups : List (Rule σ × List (Finding σ))}

lemma rule_mem (h : PartedByRule rules findings groups) {g : Rule σ × List (Finding σ)}
    (hg : g ∈ groups) : g.1 ∈ rules := by
  have hmem : g.1 ∈ groups.map Prod.fst := List.mem_map_of_mem hg
  rw [h.rules_eq] at hmem
  exact (List.mem_filter.mp hmem).1

lemma finding_mem (h : PartedByRule rules findings groups) {g : Rule σ × List (Finding σ)}
    (hg : g ∈ groups) {x : Finding σ} (hx : x ∈ g.2) : x ∈ findings :=
  h.perm.mem_iff.mp (List.mem_flatMap.mpr ⟨g, hg, hx⟩)

lemma eq_nil_iff (h : PartedByRule rules findings groups) : groups = [] ↔ findings = [] := by
  constructor
  · rintro rfl
    exact h.perm.nil_eq.symm
  · rintro rfl
    refine List.eq_nil_iff_forall_not_mem.mpr fun g hg => h.nonempty g hg ?_
    rw [h.findings_eq g hg, List.filter_nil]

end PartedByRule

namespace Patterns

/-! ### Reading a listing back -/

/-- The pieces of a text between its empty lines, from left to right, with `piece` the characters of
the piece in progress, last one first. -/
def cutFrom (piece : List Char) : List Char → List (List Char)
  | [] => [piece.reverse]
  | '\n' :: '\n' :: rest => piece.reverse :: cutFrom [] rest
  | c :: rest => cutFrom (c :: piece) rest

/-- The blocks of a listing, each in lines. The line end that closes the listing is left out. -/
def readBack (text : String) : List (List String) :=
  (cutFrom [] text.toList.dropLast).map fun piece => (piece.splitOn '\n').map String.ofList

/-- The characters of a line, of which there are some. -/
def IsRow (row : List Char) : Prop := row ≠ [] ∧ '\n' ∉ row

lemma cutFrom_row {row : List Char} (h : '\n' ∉ row) (piece rest : List Char) :
    cutFrom piece (row ++ rest) = cutFrom (row.reverse ++ piece) rest := by
  induction row generalizing piece with
  | nil => rfl
  | cons c row ih =>
    have hc : c ≠ '\n' := (List.ne_of_not_mem_cons h).symm
    rw [List.cons_append, cutFrom, ih (List.not_mem_of_not_mem_cons h)]
    · simp
    · exact fun _ hne _ => hc hne

/-- A line end that is followed by something else stays in its piece. -/
lemma cutFrom_lineEnd {rest : List Char} (h : rest.head? ≠ some '\n') (piece : List Char) :
    cutFrom piece ('\n' :: rest) = cutFrom ('\n' :: piece) rest := by
  cases rest with
  | nil => rfl
  | cons c rest =>
    have hc : c ≠ '\n' := by simpa using h
    simp [cutFrom, hc]

/-- The lines of a block stay together, since none of them is empty. -/
lemma cutFrom_rows {rows : List (List Char)} (hne : rows ≠ []) (h : ∀ row ∈ rows, IsRow row)
    (piece rest : List Char) :
    cutFrom piece (['\n'].intercalate rows ++ rest) =
      cutFrom ((['\n'].intercalate rows).reverse ++ piece) rest := by
  induction rows generalizing piece with
  | nil => exact absurd rfl hne
  | cons row rows ih =>
    obtain ⟨hrow, hrows⟩ := List.forall_mem_cons.mp h
    cases rows with
    | nil => rw [List.intercalate_singleton, cutFrom_row hrow.2]
    | cons next rows =>
      have hnext : (['\n'].intercalate (next :: rows) ++ rest).head? ≠ some '\n' := by
        obtain ⟨hnext, hfree⟩ := hrows next (by simp)
        cases next with
        | nil => exact absurd rfl hnext
        | cons c next =>
          rw [List.intercalate_cons_cons_left, List.cons_append, List.head?_cons]
          simpa using (List.ne_of_not_mem_cons hfree).symm
      rw [List.intercalate_cons_cons, List.append_assoc, List.append_assoc, cutFrom_row hrow.2,
        List.singleton_append, cutFrom_lineEnd hnext, ih (by simp) hrows]
      simp

lemma cutFrom_blocks {blocks : List (List (List Char))} (hne : blocks ≠ [])
    (h : ∀ rows ∈ blocks, rows ≠ [] ∧ ∀ row ∈ rows, IsRow row) :
    cutFrom [] (['\n', '\n'].intercalate (blocks.map ['\n'].intercalate)) =
      blocks.map ['\n'].intercalate := by
  induction blocks with
  | nil => exact absurd rfl hne
  | cons rows blocks ih =>
    obtain ⟨hrows, hblocks⟩ := List.forall_mem_cons.mp h
    cases blocks with
    | nil =>
      have hcut := cutFrom_rows hrows.1 hrows.2 [] []
      simpa [cutFrom] using hcut
    | cons next blocks =>
      rw [List.map_cons, List.map_cons, List.intercalate_cons_cons, List.append_assoc,
        cutFrom_rows hrows.1 hrows.2]
      rw [List.cons_append, List.cons_append, List.nil_append, cutFrom, ← List.map_cons,
        ih (by simp) hblocks]
      simp

/-- A listing of blocks gives back their lines when none of these is empty or goes over a line
end. -/
lemma readBack_joined {blocks : List (List String)} (hne : blocks ≠ [])
    (h : ∀ rows ∈ blocks, rows ≠ [] ∧ ∀ row ∈ rows, IsRow row.toList) :
    readBack (joined (blocks.map "\n".intercalate)) = blocks := by
  have hchars : (joined (blocks.map "\n".intercalate)).toList =
      ['\n', '\n'].intercalate ((blocks.map (List.map String.toList)).map ['\n'].intercalate) ++
        ['\n'] := by
    simp [joined, hne, String.toList_intercalate, Function.comp_def]
  have hrows : ∀ rows ∈ blocks.map (List.map String.toList),
      rows ≠ [] ∧ ∀ row ∈ rows, IsRow row := by
    simpa using h
  rw [readBack, hchars, List.dropLast_concat, cutFrom_blocks (by simpa using hne) hrows,
    List.map_map, List.map_map]
  refine (List.map_congr_left fun rows hmem => ?_).trans (List.map_id _)
  obtain ⟨hsome, hrow⟩ := h rows hmem
  rw [Function.comp_apply, Function.comp_apply, List.splitOn_intercalate]
  · simp
  · simpa using fun row hmem' => (hrow row hmem').2
  · simpa using hsome

/-! ### The lines of a listing -/

/-- A text is on one line. -/
def OnOneLine (s : String) : Prop := '\n' ∉ s.toList

instance (s : String) : Decidable (OnOneLine s) := inferInstanceAs (Decidable ('\n' ∉ s.toList))

lemma isRow_heading {r : Rule σ} (hid : OnOneLine r.id)
    (hdescription : OnOneLine r.description.text) : IsRow (heading r).toList := by
  unfold OnOneLine at hid hdescription
  constructor
  · simp [heading, toString]
  · simp [heading, hid, hdescription, toString]

lemma isRow_findingLine {x : Finding σ} (hfile : OnOneLine x.file)
    (hsnippet : OnOneLine x.snippet) : IsRow (findingLine x).toList := by
  unfold OnOneLine at hfile hsnippet
  constructor
  · simp [findingLine]
  · simp [findingLine, hfile, hsnippet, toString, Nat.toList_repr, not_mem_toDigits]

lemma mem_lines_of_line? {f : SourceFile} {n : ℕ} {line : String} (h : f.line? n = some line) :
    line ∈ f.lines := by
  cases n with
  | zero => simp [SourceFile.line?] at h
  | succ n => exact List.mem_of_getElem? h

/-- A finding stays on one line when the path of its file and the line itself do. -/
lemma onOneLine_of_finding {rules : List (Rule σ)} {files : List SourceFile}
    (hfiles : ∀ f ∈ files, OnOneLine f.path ∧ ∀ line ∈ f.lines, OnOneLine line) {x : Finding σ}
    (hx : x ∈ (Engine.found rules files).findings) : OnOneLine x.file ∧ OnOneLine x.snippet := by
  obtain ⟨s, f, r, line, hf, -, hrep, rfl⟩ := Engine.mem_findings_iff.mp hx
  obtain ⟨hpath, hlines⟩ := hfiles f (List.mem_of_getElem? hf)
  refine ⟨hpath, fun hmem => ?_⟩
  obtain ⟨before, after, hsplit, -⟩ := Text.trimBlanks_split line.toList
  rw [Text.strip, String.toList_ofList] at hmem
  refine hlines line (mem_lines_of_line? hrep.1) ?_
  rw [hsplit]
  simp [hmem]

/-- The lines of a group of findings in a listing. -/
def rows (group : Rule σ × List (Finding σ)) : List String :=
  heading group.1 :: group.2.map findingLine

/-! ### Listings of scans -/

section Listing

variable {groups : List (Rule σ × List (Finding σ))}

lemma joined_eq_empty_iff (blocks : List String) : joined blocks = "" ↔ blocks = [] := by
  constructor
  · intro h
    by_contra hne
    simp [joined, hne] at h
  · rintro rfl
    rfl

lemma getLast?_joined {blocks : List String} (hne : blocks ≠ []) :
    (joined blocks).toList.getLast? = some '\n' := by
  simp [joined, hne]

lemma readBack_groups (hne : groups ≠ [])
    (hrules : ∀ g ∈ groups, OnOneLine g.1.id ∧ OnOneLine g.1.description.text)
    (hfindings : ∀ g ∈ groups, ∀ x ∈ g.2, OnOneLine x.file ∧ OnOneLine x.snippet) :
    readBack (joined (groups.map block)) = groups.map rows := by
  have hblocks : groups.map block = (groups.map rows).map "\n".intercalate := by
    rw [List.map_map]
    rfl
  rw [hblocks, readBack_joined (by simpa using hne)]
  intro lines hlines
  obtain ⟨g, hg, rfl⟩ := List.mem_map.mp hlines
  refine ⟨List.cons_ne_nil _ _, List.forall_mem_cons.mpr ⟨?_, fun line hline => ?_⟩⟩
  · exact isRow_heading (hrules g hg).1 (hrules g hg).2
  · obtain ⟨x, hx, rfl⟩ := List.mem_map.mp hline
    exact isRow_findingLine (hfindings g hg x hx).1 (hfindings g hg x hx).2

end Listing

/-- Three rules as they are handed in, the second of which finds nothing below. -/
def threeEntries : List Entry := [
  .draft ⟨.str "A", .str "x marks", .level .high, .literal 0 (.str "x"), .list [], .null⟩,
  .draft ⟨.str "B", .str "unused", .level .low, .literal 0 (.str "z"), .list [], .null⟩,
  .draft ⟨.str "C", .str "blanks", .level .low, .literal 0 (.str " "), .list [], .null⟩]

def threeRules : Registry Severity := ⟨[
  ⟨"A", .str "x marks", .high, .literal 0 (.str "x"), [], .null⟩,
  ⟨"B", .str "unused", .low, .literal 0 (.str "z"), [], .null⟩,
  ⟨"C", .str "blanks", .low, .literal 0 (.str " "), [], .null⟩]⟩

/-- What the rules find on a line with words and on a line of white space. -/
def threeFindings : ScanResult Severity :=
  ⟨[⟨"A", .high, "a", 1, "x y"⟩, ⟨"C", .low, "a", 1, "x y"⟩, ⟨"C", .low, "a", 2, ""⟩], []⟩

end Patterns

end LineAudit
