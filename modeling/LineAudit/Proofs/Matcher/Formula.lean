import LineAudit.Proofs.Matcher.Agreement
import LineAudit.Proofs.Matcher.Decision
import LineAudit.Proofs.Matcher.Occurrence
import Mathlib.Logic.Relation

/-!
Trees of matchers as formulas.

The children of a joint are asked from left to right, up to the first one that settles it. Main
result: what stands after that child plays no part, a joint among the children of a joint of its own
kind can be dissolved, and a matcher without complaints tells whether its formula holds, in which
the children of every node may stand in any order.
-/

namespace LineAudit

namespace Joint

lemma verdict_singleton (joint : Joint) (d : Except Failure Bool) : joint.verdict [d] = d := by
  by_cases hd : d = .ok joint.passes
  · rw [hd, verdict_eq_passes_iff]
    simp
  · exact (verdict_eq_iff hd).mpr ⟨[], [], rfl, by simp⟩

/-- A verdict stands for the answers that it is made of. -/
lemma verdict_dissolve (joint : Joint) (before inner after : List (Except Failure Bool)) :
    joint.verdict (before ++ joint.verdict inner :: after) =
      joint.verdict (before ++ (inner ++ after)) := by
  have hinner : joint.verdict (joint.verdict inner :: after) = joint.verdict (inner ++ after) := by
    have hone := joint.verdict_singleton (joint.verdict inner)
    rw [← List.singleton_append]
    by_cases h : joint.verdict inner = .ok joint.passes
    · rw [verdict_append_of_eq (hone.trans h), verdict_append_of_eq h]
    · rw [verdict_append_of_ne (by rwa [hone]), verdict_append_of_ne h, hone]
  by_cases h : joint.verdict before = .ok joint.passes
  · rw [verdict_append_of_eq h, verdict_append_of_eq h, hinner]
  · rw [verdict_append_of_ne h, verdict_append_of_ne h]

end Joint

namespace Matcher

/-! ### Changes inside a tree -/

/-- Matchers that differ by a change of one node. -/
inductive Within (change : Matcher → Matcher → Prop) : Matcher → Matcher → Prop
  | here {m m' : Matcher} (h : change m m') : Within change m m'
  | child (joint : Joint) (mark : ℕ) (before after : List Matcher) {m m' : Matcher}
      (h : Within change m m') :
      Within change (joint.node mark (before ++ m :: after))
        (joint.node mark (before ++ m' :: after))

/-- Children are replaced that come after one by which a joint is settled on a line. -/
inductive ReplacesLater (line : String) : Matcher → Matcher → Prop
  | mk (joint : Joint) (mark : ℕ) (before : List Matcher) (x : Matcher)
      (later later' : List Matcher) (hx : x.test line ≠ .ok joint.passes) :
      ReplacesLater line (joint.node mark (before ++ x :: later))
        (joint.node mark (before ++ x :: later'))

/-- A joint among the children of a joint of its own kind gives way to its children. -/
inductive Dissolves : Matcher → Matcher → Prop
  | mk (joint : Joint) (mark mark' : ℕ) (before inner after : List Matcher) :
      Dissolves (joint.node mark (before ++ joint.node mark' inner :: after))
        (joint.node mark (before ++ inner ++ after))

/-- The children of a joint change places. -/
inductive Reorders : Matcher → Matcher → Prop
  | mk (joint : Joint) (mark : ℕ) {children children' : List Matcher}
      (h : children.Perm children') :
      Reorders (joint.node mark children) (joint.node mark children')

variable {line : String} {m m' : Matcher}

/-- A change that does not show in one node does not show in the tree either. -/
lemma Within.test_eq {change : Matcher → Matcher → Prop}
    (hchange : ∀ m m', change m m' → m'.test line = m.test line) (h : Within change m m') :
    m'.test line = m.test line := by
  induction h with
  | here h => exact hchange _ _ h
  | child joint mark before after _ ih => simp [test_node, ih]

lemma test_eq_of_changes {change : Matcher → Matcher → Prop}
    (hchange : ∀ m m', change m m' → m'.test line = m.test line)
    (h : Relation.ReflTransGen (Within change) m m') : m'.test line = m.test line := by
  induction h with
  | refl => rfl
  | tail _ hlast ih => exact (hlast.test_eq hchange).trans ih

lemma ReplacesLater.test_eq (h : ReplacesLater line m m') : m'.test line = m.test line := by
  obtain ⟨joint, mark, before, x, later, later', hx⟩ := h
  -- the verdict is settled by the children up to `x`
  have hsettled : joint.verdict ((before ++ [x]).map fun m => m.test line) ≠
      .ok joint.passes := by
    rw [Ne, Joint.verdict_eq_passes_iff]
    exact fun h => hx (h _ (by simp))
  have hsplit (rest : List Matcher) : (before ++ x :: rest).map (fun m => m.test line) =
      (before ++ [x]).map (fun m => m.test line) ++ rest.map fun m => m.test line := by simp
  rw [test_node, test_node, hsplit later', hsplit later, Joint.verdict_append_of_ne hsettled,
    Joint.verdict_append_of_ne hsettled]

lemma Dissolves.test_eq (h : Dissolves m m') (line : String) : m'.test line = m.test line := by
  obtain ⟨joint, mark, mark', before, inner, after⟩ := h
  simp [test_node, Joint.verdict_dissolve]

/-! ### Formulas -/

/-- The formula of a matcher holds on a line. -/
inductive Holds (line : String) : Matcher → Prop
  | literal (mark : ℕ) {s : String} (h : Occurs s line) : Holds line (.literal mark (.str s))
  | regex (mark : ℕ) {r : Regex} (h : r.search line = .ok true) : Holds line (.regex mark r)
  | alarmed (mark : ℕ) (trigger : String) (failure : Failure) {r : Regex}
      (h : r.search line = .ok true) : Holds line (.alarmed mark trigger failure r)
  | any (mark : ℕ) {children : List Matcher} {m : Matcher} (hm : m ∈ children)
      (h : Holds line m) : Holds line (.any mark children)
  | all (mark : ℕ) {children : List Matcher} (h : ∀ m ∈ children, Holds line m) :
      Holds line (.all mark children)

/-- A matcher holds one of a caller's own that is made to fail on a line. -/
inductive Alarms (line : String) : Matcher → Prop
  | alarmed (mark : ℕ) {trigger : String} (failure : Failure) (r : Regex)
      (h : contains line trigger = true) : Alarms line (.alarmed mark trigger failure r)
  | any (mark : ℕ) {children : List Matcher} {m : Matcher} (hm : m ∈ children)
      (h : Alarms line m) : Alarms line (.any mark children)
  | all (mark : ℕ) {children : List Matcher} {m : Matcher} (hm : m ∈ children)
      (h : Alarms line m) : Alarms line (.all mark children)

lemma Plain.not_alarms (h : m.Plain) (line : String) : ¬ m.Alarms line := by
  induction h with
  | literal mark v => exact nofun
  | regex mark r => exact nofun
  | any mark _ ih =>
    intro halarms
    cases halarms with
    | any _ hm h => exact ih _ hm h
  | all mark _ ih =>
    intro halarms
    cases halarms with
    | all _ hm h => exact ih _ hm h

lemma alarms_node_iff (joint : Joint) (mark : ℕ) (children : List Matcher) (line : String) :
    (joint.node mark children).Alarms line ↔ ∃ m ∈ children, m.Alarms line := by
  cases joint with
  | any =>
    refine ⟨fun halarms => ?_, fun ⟨m, hm, h⟩ => .any mark hm h⟩
    cases halarms with
    | any _ hm h => exact ⟨_, hm, h⟩
  | all =>
    refine ⟨fun halarms => ?_, fun ⟨m, hm, h⟩ => .all mark hm h⟩
    cases halarms with
    | all _ hm h => exact ⟨_, hm, h⟩

/-- Joints hold by their children: one joined by `any` fails to hold when all of them do, and one
joined by `all` holds when all of them do. -/
lemma holds_node_iff (joint : Joint) (mark : ℕ) (children : List Matcher) (line : String) :
    (joint.passes = true ↔ (joint.node mark children).Holds line) ↔
      ∀ m ∈ children, (joint.passes = true ↔ m.Holds line) := by
  cases joint with
  | any =>
    simp only [Joint.passes, Bool.false_eq_true, false_iff]
    refine ⟨fun h m hm hholds => h (.any mark hm hholds), ?_⟩
    intro hall hholds
    cases hholds with
    | any _ hm h => exact hall _ hm h
  | all =>
    simp only [Joint.passes, true_iff]
    refine ⟨fun hholds => ?_, .all mark⟩
    cases hholds with
    | all _ h => exact h

lemma holds_perm (joint : Joint) (mark : ℕ) {children children' : List Matcher}
    (h : children.Perm children') (line : String) :
    (joint.node mark children').Holds line ↔ (joint.node mark children).Holds line := by
  have hsame : (joint.passes = true ↔ (joint.node mark children').Holds line) ↔
      (joint.passes = true ↔ (joint.node mark children).Holds line) := by
    simp only [holds_node_iff, h.mem_iff]
  tauto

/-- A matcher without complaints that nothing makes fail on a line. -/
structure Fit (line : String) (m : Matcher) : Prop where
  flawless : m.complaints = []
  calm : ¬ m.Alarms line

lemma fit_node_iff (joint : Joint) (mark : ℕ) (children : List Matcher) (line : String) :
    (joint.node mark children).Fit line ↔ children ≠ [] ∧ ∀ m ∈ children, m.Fit line := by
  constructor
  · rintro ⟨hflawless, hcalm⟩
    obtain ⟨hne, hall⟩ := (complaints_node_eq_nil_iff joint mark children).mp hflawless
    rw [alarms_node_iff] at hcalm
    exact ⟨hne, fun m hm => ⟨hall m hm, fun h => hcalm ⟨m, hm, h⟩⟩⟩
  · rintro ⟨hne, hall⟩
    refine ⟨(complaints_node_eq_nil_iff joint mark children).mpr
      ⟨hne, fun m hm => (hall m hm).flawless⟩, ?_⟩
    rw [alarms_node_iff]
    rintro ⟨m, hm, h⟩
    exact (hall m hm).calm h

/-- **A matcher that is fit for a line tells whether its formula holds there.** -/
theorem Fit.answers (h : m.Fit line) : ∃ b, m.test line = .ok b ∧ (b = true ↔ m.Holds line) := by
  induction m using inductionOn with
  | literal mark v =>
    cases v with
    | str s =>
      refine ⟨contains line s, by rw [test], ?_⟩
      refine (contains_iff line s).trans ⟨.literal mark, fun hholds => ?_⟩
      cases hholds with
      | literal _ hoccurs => exact hoccurs
    | _ => exact absurd h.flawless (by simp [complaints, literalComplaints, complain])
  | regex mark r =>
    obtain ⟨b, hsearch, htest⟩ := r.exists_answer (regexComplaints_eq_nil_iff.mp h.flawless) line
    refine ⟨b, by rw [test, htest], fun hb => .regex mark (hb ▸ hsearch), fun hholds => ?_⟩
    cases hholds with
    | regex _ hfound => exact Except.ok.inj (hsearch.symm.trans hfound)
  | alarmed mark trigger failure r =>
    obtain ⟨b, hsearch, htest⟩ := r.exists_answer (regexComplaints_eq_nil_iff.mp h.flawless) line
    have hquiet : ¬ contains line trigger = true := fun ht => h.calm (.alarmed mark failure r ht)
    refine ⟨b, by rw [test, if_neg hquiet, htest],
      fun hb => .alarmed mark trigger failure (hb ▸ hsearch), fun hholds => ?_⟩
    cases hholds with
    | alarmed _ _ _ hfound => exact Except.ok.inj (hsearch.symm.trans hfound)
  | foreign v => exact absurd h.flawless (by simp [complaints, complain])
  | node joint mark children ih =>
    obtain ⟨-, hall⟩ := (fit_node_iff joint mark children line).mp h
    by_cases hpass : ∀ m ∈ children, m.test line = .ok joint.passes
    · refine ⟨joint.passes, (test_node_eq_passes_iff ..).mpr hpass,
        (holds_node_iff ..).mpr fun m hm => ?_⟩
      obtain ⟨b, hb, hholds⟩ := ih m hm (hall m hm)
      rw [hpass m hm] at hb
      rwa [Except.ok.inj hb]
    · have hne := mt (test_node_eq_passes_iff joint mark children line).mp hpass
      obtain ⟨before, x, after, he, -, hx⟩ := (test_node_eq_iff hne mark children line).mp rfl
      have hmem : x ∈ children := by simp [he]
      obtain ⟨b, hb, hholds⟩ := ih x hmem (hall x hmem)
      refine ⟨b, hx.symm.trans hb, ?_⟩
      -- the joint holds or not as the child does that settles it
      have hother : ¬ (joint.passes = true ↔ x.Holds line) := by
        rw [← hholds]
        intro hsame
        exact hne (hx.symm.trans (hb.trans (congrArg Except.ok (Bool.eq_iff_iff.mpr hsame).symm)))
      have hnode := fun h => hother ((holds_node_iff joint mark children line).mp h x hmem)
      cases hp : joint.passes <;> cases b <;> simp_all

lemma Fit.test_eq (h : m.Fit line) (h' : m'.Fit line) (hsame : m'.Holds line ↔ m.Holds line) :
    m'.test line = m.test line := by
  obtain ⟨b, hb, hholds⟩ := h.answers
  obtain ⟨b', hb', hholds'⟩ := h'.answers
  rw [hb, hb', Bool.eq_iff_iff.mpr (hholds'.trans (hsame.trans hholds.symm))]

/-- A tree that is fit stays so when the children of a node change places, and tells the same. -/
lemma Fit.reorder (hfit : m.Fit line) (h : Within Reorders m m') :
    m'.Fit line ∧ m'.test line = m.test line := by
  induction h with
  | here h =>
    obtain ⟨joint, mark, hperm⟩ := h
    have hfit' : (joint.node mark _).Fit line := (fit_node_iff joint mark _ line).mpr <| by
      simpa [hperm.mem_iff, ← List.length_pos_iff, hperm.length_eq] using
        (fit_node_iff joint mark _ line).mp hfit
    exact ⟨hfit', hfit.test_eq hfit' (holds_perm joint mark hperm line)⟩
  | child joint mark before after _ ih =>
    obtain ⟨-, hall⟩ := (fit_node_iff joint mark _ line).mp hfit
    obtain ⟨hchild, htest⟩ := ih (hall _ (by simp))
    refine ⟨(fit_node_iff joint mark _ line).mpr ⟨by simp, fun x hx => ?_⟩, ?_⟩
    · simp only [List.mem_append, List.mem_cons] at hx
      rcases hx with hx | rfl | hx
      · exact hall x (by simp [hx])
      · exact hchild
      · exact hall x (by simp [hx])
    · simp [test_node, htest]

lemma Fit.test_eq_of_reorders (hfit : m.Fit line)
    (h : Relation.ReflTransGen (Within Reorders) m m') : m'.test line = m.test line := by
  suffices m'.Fit line ∧ m'.test line = m.test line from this.2
  induction h with
  | refl => exact ⟨hfit, rfl⟩
  | tail _ hlast ih =>
    obtain ⟨hfit', htest⟩ := ih.1.reorder hlast
    exact ⟨hfit', htest.trans ih.2⟩

/-- **The first child that settles a joint decides, and a matcher without complaints is a formula.**
A joint that does not pass answers, or fails, as the first of its children does that does not pass.
So children after that one may be replaced by any others, and joints may be dissolved in joints of
their own kind, anywhere in a tree, whatever the tree is made of. A matcher without complaints tells
on each line whether its formula holds, wherever the children of its nodes stand, unless one of a
caller's own is made to fail there. -/
theorem test_settled :
    (∀ (joint : Joint) (mark : ℕ) (children : List Matcher) (line : String),
      (∀ d, d ≠ .ok joint.passes → ((joint.node mark children).test line = d ↔
        ∃ before x after, children = before ++ x :: after ∧
          (∀ y ∈ before, y.test line = .ok joint.passes) ∧ x.test line = d)) ∧
      ((joint.node mark children).test line = .ok joint.passes ↔
        ∀ m ∈ children, m.test line = .ok joint.passes)) ∧
    (∀ line m m', Relation.ReflTransGen (Within (ReplacesLater line)) m m' →
      m'.test line = m.test line) ∧
    (∀ m m', Relation.ReflTransGen (Within Dissolves) m m' →
      ∀ line, m'.test line = m.test line) ∧
    (∀ m line, Plain m → ¬ Alarms line m) ∧
    ∀ m line, complaints m = [] → ¬ Alarms line m →
      (∃ b, m.test line = .ok b ∧ (b = true ↔ m.Holds line)) ∧
      ∀ m', Relation.ReflTransGen (Within Reorders) m m' → m'.test line = m.test line := by
  refine ⟨fun joint mark children line => ⟨fun d hd => test_node_eq_iff hd mark children line,
    test_node_eq_passes_iff joint mark children line⟩, ?_, ?_, ?_, ?_⟩
  · intro line m m' h
    exact test_eq_of_changes (fun _ _ => ReplacesLater.test_eq) h
  · intro m m' h line
    exact test_eq_of_changes (fun _ _ hd => hd.test_eq line) h
  · exact fun m line h => h.not_alarms line
  · intro m line hflawless hcalm
    have hfit : m.Fit line := ⟨hflawless, hcalm⟩
    exact ⟨hfit.answers, fun m' h => hfit.test_eq_of_reorders h⟩

/-- A literal. -/
def word (s : String) : Matcher := .literal 2 (.str s)

/-- A choice in front of two words, with more children after them. -/
def choice (first second : String) (later : List Matcher) : Matcher :=
  .any 0 (.any 1 [word "z"] :: .all 3 [word first, word second] :: later)

/-- A choice that two words settle before a value is reached that is no matcher. -/
theorem test_settled_choice :
    let settled := choice "a" "b" [.foreign .null]
    let flat : Matcher := .any 0 [word "z", .all 3 [word "a", word "b"], .foreign .null]
    let cut := choice "a" "b" []
    let turned := choice "b" "a" []
    (Except.ok true ≠ (.ok Joint.any.passes : Except Failure Bool) ∧ settled.test "ab" = .ok true ∧
      ∃ before x after, settled = .any 0 (before ++ x :: after) ∧
        (∀ y ∈ before, y.test "ab" = .ok false) ∧ x.test "ab" = .ok true) ∧
    (Relation.ReflTransGen (Within (ReplacesLater "ab")) settled cut ∧
      cut.test "ab" = settled.test "ab") ∧
    (Relation.ReflTransGen (Within Dissolves) settled flat ∧
      ∀ line, flat.test line = settled.test line) ∧
    (cut.Plain ∧ ¬ cut.Alarms "ab") ∧
    cut.complaints = [] ∧ (∃ b, cut.test "ab" = .ok b ∧ (b = true ↔ cut.Holds "ab")) ∧
      Relation.ReflTransGen (Within Reorders) cut turned ∧ turned.test "ab" = cut.test "ab" := by
  intro settled flat cut turned
  obtain ⟨hdecides, hlater, hdissolves, hplain, hformula⟩ := test_settled
  have hne : Except.ok true ≠ (.ok Joint.any.passes : Except Failure Bool) := by simp [Joint.passes]
  have htest : settled.test "ab" = .ok true := rfl
  have hboth : (Matcher.all 3 [word "a", word "b"]).test "ab" ≠ .ok Joint.any.passes := hne
  have hcut : Relation.ReflTransGen (Within (ReplacesLater "ab")) settled cut :=
    .single (.here (.mk .any 0 [.any 1 [word "z"]] _ [.foreign .null] [] hboth))
  have hflat : Relation.ReflTransGen (Within Dissolves) settled flat :=
    .single (.here (.mk .any 0 1 [] [word "z"] _))
  have hleaf : cut.Plain := by
    refine .any 0 fun child hchild => ?_
    simp only [List.mem_cons, List.not_mem_nil, or_false] at hchild
    rcases hchild with rfl | rfl
    · exact .any 1 (by simpa using .literal 2 _)
    · exact .all 3 (by simpa using ⟨.literal 2 _, .literal 2 _⟩)
  have hflawless : cut.complaints = [] := rfl
  have hturned : Relation.ReflTransGen (Within Reorders) cut turned :=
    .single (.child .any 0 [.any 1 [word "z"]] [] (.here (.mk .all 3 (.swap ..))))
  have hcalm := hplain cut "ab" hleaf
  obtain ⟨hanswers, hreorders⟩ := hformula cut "ab" hflawless hcalm
  obtain ⟨before, x, after, hsplit, hbefore, hx⟩ := ((hdecides .any 0 _ "ab").1 _ hne).mp htest
  exact ⟨⟨hne, htest, before, x, after, congrArg _ hsplit, hbefore, hx⟩, ⟨hcut, hlater _ _ _ hcut⟩,
    ⟨hflat, hdissolves _ _ hflat⟩, ⟨hleaf, hcalm⟩, hflawless, hanswers, hturned,
    hreorders _ hturned⟩

end Matcher

end LineAudit
