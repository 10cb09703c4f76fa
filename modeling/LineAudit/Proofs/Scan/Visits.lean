import LineAudit.Proofs.Lists
import LineAudit.Proofs.Matcher.Decision
import LineAudit.Scan.File

/-!
The visits of a scan to the lines of a file.

A scan goes through the lines of a file, and on each line through the rules that have not failed
on a line before it. What it finds is what comes of these visits, in their order. The list of
broken rules is proved against the lines before.
-/

namespace LineAudit

variable {σ : Type}

/-- A rule fails on one of some lines. -/
def Rule.breaksIn (r : Rule σ) (lines : List String) : Bool :=
  lines.any fun line => !(r.fires line).isOk

namespace FileScan

/-- A rule that is put to a line of a file. -/
structure Visit (σ : Type) where
  number : ℕ
  line : String
  position : ℕ
  rule : Rule σ

def Visit.hit? (path : String) (v : Visit σ) : Option (Placed (Finding σ)) :=
  match v.rule.fires v.line with
  | .ok true => some ⟨path, v.number, v.position, finding path v.number v.line v.rule⟩
  | _ => none

def Visit.error? (path : String) (v : Visit σ) : Option (Placed EvaluationError) :=
  match v.rule.fires v.line with
  | .error failure => some ⟨path, v.number, v.position, ⟨v.rule.id, path, v.number, failure⟩⟩
  | .ok _ => none

/-- A visit gives a finding exactly when the rule matches, and then the one of its place. -/
lemma Visit.hit?_eq_some_iff {path : String} {v : Visit σ} {x : Placed (Finding σ)} :
    Visit.hit? path v = some x ↔ v.rule.fires v.line = .ok true ∧
      ⟨path, v.number, v.position, finding path v.number v.line v.rule⟩ = x := by
  unfold Visit.hit?
  rcases v.rule.fires v.line with c | _ | _ <;> simp

/-- A visit gives an error exactly when the rule fails, and then the one of its place. -/
lemma Visit.error?_eq_some_iff {path : String} {v : Visit σ} {x : Placed EvaluationError} :
    Visit.error? path v = some x ↔ ∃ c, v.rule.fires v.line = .error c ∧
      ⟨path, v.number, v.position, ⟨v.rule.id, path, v.number, c⟩⟩ = x := by
  unfold Visit.error?
  cases v.rule.fires v.line <;> simp

/-- The rules of `ps` that are not broken, put to a line. -/
def visitsOf (isBroken : Rule σ × ℕ → Bool) (number : ℕ) (line : String)
    (ps : List (Rule σ × ℕ)) : List (Visit σ) :=
  (ps.filter fun q => !isBroken q).map fun q => ⟨number, line, q.2, q.1⟩

lemma visitsOf_cons (isBroken : Rule σ × ℕ → Bool) (number : ℕ) (line : String) (q : Rule σ × ℕ)
    (ps : List (Rule σ × ℕ)) :
    visitsOf isBroken number line (q :: ps) =
      (if isBroken q then [] else [⟨number, line, q.2, q.1⟩]) ++
        visitsOf isBroken number line ps := by
  cases h : isBroken q <;> simp [visitsOf, h]

lemma visitsOf_congr {b b' : Rule σ × ℕ → Bool} {ps : List (Rule σ × ℕ)}
    (h : ∀ q ∈ ps, b q = b' q) (number : ℕ) (line : String) :
    visitsOf b number line ps = visitsOf b' number line ps := by
  unfold visitsOf
  rw [List.filter_congr fun q hq => by rw [h q hq]]

/-- All visits to lines that come after the lines `before`. -/
def visitsFrom (rules : List (Rule σ)) (before : List String) : List String → List (Visit σ)
  | [] => []
  | line :: rest =>
    visitsOf (fun q => q.1.breaksIn before) (before.length + 1) line rules.zipIdx ++
      visitsFrom rules (before ++ [line]) rest

def visits (rules : List (Rule σ)) (f : SourceFile) : List (Visit σ) := visitsFrom rules [] f.lines

/-- A scan goes from one state to another by some visits. -/
structure Yields (path : String) (vs : List (Visit σ)) (s t : FileScan σ) : Prop where
  hits : t.hits = s.hits ++ vs.filterMap (Visit.hit? path)
  errors : t.errors = s.errors ++ vs.filterMap (Visit.error? path)

variable {path : String}

lemma Yields.refl (s : FileScan σ) : Yields path [] s s := ⟨by simp, by simp⟩

lemma Yields.trans {vs ws : List (Visit σ)} {s t u : FileScan σ} (h : Yields path vs s t)
    (h' : Yields path ws t u) : Yields path (vs ++ ws) s u :=
  ⟨by rw [h'.hits, h.hits, List.filterMap_append, List.append_assoc],
    by rw [h'.errors, h.errors, List.filterMap_append, List.append_assoc]⟩

/-! ### One line -/

section Line

variable (number : ℕ) (line : String)

lemma putRule_yields (s : FileScan σ) (q : Rule σ × ℕ) :
    Yields path (if s.broken.contains q.2 then [] else [⟨number, line, q.2, q.1⟩]) s
      (putRule path number line s q) := by
  obtain ⟨r, position⟩ := q
  unfold putRule
  cases hb : s.broken.contains position with
  | true => simpa only [hb, if_true] using Yields.refl s
  | false =>
    have hmem : position ∉ s.broken := by simpa using hb
    rcases hf : r.fires line with c | _ | _ <;> constructor <;>
      simp [hmem, hf, Visit.hit?, Visit.error?]

lemma mem_broken_putRule (s : FileScan σ) (q : Rule σ × ℕ) (p : ℕ) :
    p ∈ (putRule path number line s q).broken ↔
      p ∈ s.broken ∨ (p = q.2 ∧ (q.1.fires line).isOk = false) := by
  obtain ⟨r, position⟩ := q
  unfold putRule
  by_cases hb : position ∈ s.broken
  · -- a broken rule stays broken, whatever it would do on this line
    simp only [List.contains_iff_mem.mpr hb, if_true]
    refine ⟨Or.inl, ?_⟩
    rintro (h | ⟨rfl, -⟩)
    · exact h
    · exact hb
  · have hc : s.broken.contains position = false := by simpa using hb
    rcases hf : r.fires line with c | _ | _ <;> simp [hb, hf, Except.isOk, Except.toBool, or_comm]

lemma foldl_putRule_yields (ps : List (Rule σ × ℕ)) (hnd : (ps.map Prod.snd).Nodup)
    (s : FileScan σ) :
    Yields path (visitsOf (fun q => s.broken.contains q.2) number line ps) s
      (ps.foldl (putRule path number line) s) := by
  induction ps generalizing s with
  | nil => exact Yields.refl s
  | cons q rest ih =>
    obtain ⟨hq, hrest⟩ := List.nodup_cons.mp hnd
    have hstep : Yields path _ s _ := (putRule_yields number line s q).trans (ih hrest _)
    -- the step cannot break a later rule, as no later rule has the same position
    have hsame : ∀ q' ∈ rest, (putRule path number line s q).broken.contains q'.2 =
        s.broken.contains q'.2 := by
      intro q' hq'
      have hne : q'.2 ≠ q.2 := fun h => hq (h ▸ List.mem_map_of_mem hq')
      rw [Bool.eq_iff_iff, List.contains_iff_mem, List.contains_iff_mem, mem_broken_putRule]
      simp [hne]
    rw [visitsOf_congr hsame] at hstep
    rw [visitsOf_cons]
    exact hstep

lemma mem_broken_foldl (ps : List (Rule σ × ℕ)) (s : FileScan σ) (p : ℕ) :
    p ∈ (ps.foldl (putRule path number line) s).broken ↔
      p ∈ s.broken ∨ ∃ q ∈ ps, p = q.2 ∧ (q.1.fires line).isOk = false := by
  induction ps generalizing s with
  | nil => simp
  | cons q rest ih =>
    rw [List.foldl_cons, ih, mem_broken_putRule]
    simp [or_assoc]

end Line

/-! ### All lines -/

/-- The broken rules are those that fail on one of the lines before. -/
def Knows (rules : List (Rule σ)) (before : List String) (s : FileScan σ) : Prop :=
  ∀ q ∈ rules.zipIdx, q.2 ∈ s.broken ↔ q.1.breaksIn before = true

lemma nodup_positions (rules : List (Rule σ)) : (rules.zipIdx.map Prod.snd).Nodup :=
  List.pairwise_map.mpr ((zipIdx_pairwise rules 0).imp Nat.ne_of_lt)

lemma eq_of_position {rules : List (Rule σ)} {q q' : Rule σ × ℕ} (hq : q ∈ rules.zipIdx)
    (hq' : q' ∈ rules.zipIdx) (h : q.2 = q'.2) : q = q' :=
  List.inj_on_of_nodup_map (nodup_positions rules) hq hq' h

lemma putLine_knows (path : String) {rules : List (Rule σ)} {before : List String}
    {s : FileScan σ} (h : Knows rules before s) (line : String) (number : ℕ) :
    Knows rules (before ++ [line]) (putLine rules path s (line, number)) := by
  intro q hq
  unfold putLine
  rw [mem_broken_foldl, h q hq]
  have hbreaks : q.1.breaksIn (before ++ [line]) =
      (q.1.breaksIn before || !(q.1.fires line).isOk) := by simp [Rule.breaksIn]
  rw [hbreaks, Bool.or_eq_true]
  refine or_congr Iff.rfl ⟨?_, ?_⟩
  · rintro ⟨q', hq', he, hf⟩
    rw [eq_of_position hq hq' he]
    simp [hf]
  · intro hf
    exact ⟨q, hq, rfl, by simpa using hf⟩

lemma putLine_yields {rules : List (Rule σ)} {before : List String} {s : FileScan σ}
    (h : Knows rules before s) (line : String) (number : ℕ) :
    Yields path (visitsOf (fun q => q.1.breaksIn before) number line rules.zipIdx) s
      (putLine rules path s (line, number)) := by
  have hall : Yields path _ s _ :=
    foldl_putRule_yields number line rules.zipIdx (nodup_positions rules) s
  have hsame : ∀ q ∈ rules.zipIdx, s.broken.contains q.2 = q.1.breaksIn before := by
    intro q hq
    rw [Bool.eq_iff_iff, List.contains_iff_mem]
    exact h q hq
  rw [visitsOf_congr hsame] at hall
  exact hall

lemma foldl_putLine_yields (rules : List (Rule σ)) (rest : List String) :
    ∀ (before : List String) (s : FileScan σ), Knows rules before s →
      Yields path (visitsFrom rules before rest) s
        ((rest.zipIdx (before.length + 1)).foldl (putLine rules path) s) := by
  induction rest with
  | nil => exact fun _ s _ => Yields.refl s
  | cons line rest ih =>
    intro before s h
    have hline : Yields path _ s _ := putLine_yields h line (before.length + 1)
    have hrest := ih (before ++ [line]) _ (putLine_knows path h line (before.length + 1))
    rw [List.length_append, List.length_singleton] at hrest
    exact hline.trans hrest

/-! ### Which visits there are -/

lemma mem_visitsOf {b : Rule σ × ℕ → Bool} {number : ℕ} {line : String} {rules : List (Rule σ)}
    {v : Visit σ} :
    v ∈ visitsOf b number line rules.zipIdx ↔ v.number = number ∧ v.line = line ∧
      rules[v.position]? = some v.rule ∧ b (v.rule, v.position) = false := by
  obtain ⟨n, l, p, r⟩ := v
  simp only [visitsOf, List.mem_map, List.mem_filter, Prod.exists, List.mem_zipIdx_iff_getElem?,
    Visit.mk.injEq, Bool.not_eq_true']
  constructor
  · rintro ⟨r', p', ⟨hr, hb⟩, rfl, rfl, rfl, rfl⟩
    exact ⟨rfl, rfl, hr, hb⟩
  · rintro ⟨rfl, rfl, hr, hb⟩
    exact ⟨r, p, ⟨hr, hb⟩, rfl, rfl, rfl, rfl⟩

lemma mem_visitsFrom {rules : List (Rule σ)} {before rest : List String} {v : Visit σ} :
    v ∈ visitsFrom rules before rest ↔ ∃ k, v.number = before.length + k + 1 ∧
      rest[k]? = some v.line ∧ rules[v.position]? = some v.rule ∧
      v.rule.breaksIn (before ++ rest.take k) = false := by
  induction rest generalizing before with
  | nil => simp [visitsFrom]
  | cons line rest ih =>
    rw [visitsFrom, List.mem_append, mem_visitsOf, ih, List.length_append, List.length_singleton]
    constructor
    · rintro (⟨hn, hl, hr, hb⟩ | ⟨k, hn, hl, hr, hb⟩)
      · exact ⟨0, hn, by simp [hl], hr, by simpa using hb⟩
      · exact ⟨k + 1, by omega, by simpa using hl, hr, by simpa using hb⟩
    · rintro ⟨k, hn, hl, hr, hb⟩
      cases k with
      | zero => exact Or.inl ⟨hn, by simpa [eq_comm] using hl, hr, by simpa using hb⟩
      | succ k => exact Or.inr ⟨k, by omega, by simpa using hl, hr, by simpa using hb⟩

lemma mem_visits {rules : List (Rule σ)} {f : SourceFile} {v : Visit σ} :
    v ∈ visits rules f ↔ ∃ k, v.number = k + 1 ∧ f.lines[k]? = some v.line ∧
      rules[v.position]? = some v.rule ∧ v.rule.breaksIn (f.lines.take k) = false := by
  rw [visits, mem_visitsFrom]
  simp

/-- Visits are made line by line, and on a line rule by rule. -/
def Visit.Before (v w : Visit σ) : Prop :=
  v.number < w.number ∨ v.number = w.number ∧ v.position < w.position

lemma visitsOf_pairwise (b : Rule σ × ℕ → Bool) (number : ℕ) (line : String)
    (rules : List (Rule σ)) :
    (visitsOf b number line rules.zipIdx).Pairwise Visit.Before := by
  refine List.pairwise_map.mpr (((zipIdx_pairwise rules 0).filter _).imp ?_)
  exact fun hlt => Or.inr ⟨rfl, hlt⟩

lemma visitsFrom_pairwise (rules : List (Rule σ)) (before rest : List String) :
    (visitsFrom rules before rest).Pairwise Visit.Before := by
  induction rest generalizing before with
  | nil => exact List.Pairwise.nil
  | cons line rest ih =>
    refine List.pairwise_append.mpr ⟨visitsOf_pairwise _ _ _ _, ih _, fun v hv w hw => ?_⟩
    obtain ⟨hv, -⟩ := mem_visitsOf.mp hv
    obtain ⟨k, hw, -⟩ := mem_visitsFrom.mp hw
    rw [List.length_append, List.length_singleton] at hw
    exact Or.inl (by omega)

lemma visits_pairwise (rules : List (Rule σ)) (f : SourceFile) :
    (visits rules f).Pairwise Visit.Before := visitsFrom_pairwise rules [] f.lines

/-- **A scan of a file finds what comes of its visits.** -/
theorem run_yields (rules : List (Rule σ)) (f : SourceFile) :
    (run rules f).hits = (visits rules f).filterMap (Visit.hit? f.path) ∧
      (run rules f).errors = (visits rules f).filterMap (Visit.error? f.path) := by
  have h : Yields f.path _ begin _ :=
    foldl_putLine_yields rules f.lines [] begin fun q _ => by simp [begin, Rule.breaksIn]
  exact ⟨h.hits, h.errors⟩

end FileScan

end LineAudit
