import LineAudit.Proofs.Matcher.Build

/-!
The checks of specifications and of matchers, beside each other.

A matcher is written out as the specification in which every node stands under its key. Building
gives the matcher back, whatever stands in its leaves. Main result: a flawless specification is
built into a matcher that mirrors it and is flawless too, and a matcher and the specification
written out for it have the same complaints, node by node.
-/

namespace LineAudit

namespace Matcher

/-- Matchers of which all nodes have specifications. Leaves may hold any values, and joints may have
no children. -/
inductive Plain : Matcher → Prop
  | literal (mark : ℕ) (v : Value) : Plain (.literal mark v)
  | regex (mark : ℕ) (r : Regex) : Plain (.regex mark r)
  | any (mark : ℕ) {children : List Matcher} (h : ∀ m ∈ children, Plain m) :
      Plain (.any mark children)
  | all (mark : ℕ) {children : List Matcher} (h : ∀ m ∈ children, Plain m) :
      Plain (.all mark children)

mutual

/-- The shape of a matcher: what it is without the marks of its nodes. -/
def shape : Matcher → Matcher
  | .literal _ v => .literal 0 v
  | .regex _ r => .regex 0 r
  | .any _ children => .any 0 (shapes children)
  | .all _ children => .all 0 (shapes children)
  | .alarmed _ trigger failure r => .alarmed 0 trigger failure r
  | .foreign v => .foreign v

def shapes : List Matcher → List Matcher
  | [] => []
  | m :: rest => m.shape :: shapes rest

end

mutual

/-- The specification of a matcher in which every node stands under its key. -/
def spec : Matcher → Value
  | .literal _ v => .dict [(.str "literal", v)]
  | .regex _ r | .alarmed _ _ _ r =>
    .dict [(.str "regex", r.pattern), (.str "ignore_case", .bool r.ignoreCase)]
  | .any _ children => .dict [(.str Joint.any.key, .list (specs children))]
  | .all _ children => .dict [(.str Joint.all.key, .list (specs children))]
  | .foreign v => v

def specs : List Matcher → List Value
  | [] => []
  | m :: rest => m.spec :: specs rest

end

end Matcher

namespace Complaint

/-- The complaint as it is made where literals stand under their key. -/
def atKey (c : Complaint) : Complaint :=
  match c.problem with
  | .emptyLiteral => { c with problem := .emptyLiteralKey }
  | _ => c

lemma atKey_path (c : Complaint) : c.atKey.path = c.path := by
  unfold atKey
  split <;> rfl

lemma atKey_under (s : NodeStep) (c : Complaint) : (c.under s).atKey = c.atKey.under s := by
  obtain ⟨path, problem⟩ := c
  cases problem <;> rfl

end Complaint

namespace Spec

/-! ### One node -/

lemma field?_singleton (key k : String) (v : Value) :
    Value.field? k [(.str key, v)] = if key = k then some v else none := by
  by_cases h : key = k <;> simp [Value.field?, Value.find?, Value.sameKey, h]

lemma onlyKey_singleton (key : String) (v : Value) : OnlyKey key [(.str key, v)] := by
  intro k _
  rw [field?_singleton]
  by_cases h : key = k <;> simp [h, eq_comm]

lemma onlyKey_regex (pattern ignoreCase : Value) :
    OnlyKey "regex" [(.str "regex", pattern), (.str "ignore_case", ignoreCase)] := by
  intro k hk
  rcases specKeys_cases hk with rfl | rfl | ⟨joint, rfl⟩
  · simp [Value.field?, Value.find?, Value.sameKey]
  · simp [Value.field?, Value.find?, Value.sameKey]
  · cases joint <;> simp [Value.field?, Value.find?, Value.sameKey, Joint.key]

lemma buildLeaf_regex (pattern : Value) (ignoreCase : Bool) :
    buildLeaf [(.str "regex", pattern), (.str "ignore_case", .bool ignoreCase)] =
      buildRegex pattern ignoreCase := rfl

lemma literalProblem_eq (v : Value) :
    literalProblem v = (Matcher.literalComplaints v).map Complaint.atKey := by
  cases v with
  | str s =>
    simp only [literalProblem, Matcher.literalComplaints]
    split <;> rfl
  | _ => rfl

lemma regexComplaints_atKey (r : Regex) :
    (Matcher.regexComplaints r).map Complaint.atKey = Matcher.regexComplaints r := by
  unfold Matcher.regexComplaints
  split <;> rfl

lemma regexProblem_eq (r : Regex) :
    regexProblem r.pattern r.ignoreCase = .ok (Matcher.regexComplaints r) := by
  rw [regexProblem, Regex.make_eq_ok_iff.mpr ⟨rfl, rfl⟩]

/-! ### Joints -/

lemma field?_key (joint : Joint) (v : Value) :
    Value.field? joint.key [(.str joint.key, v)] = some v := by
  rw [field?_singleton, if_pos rfl]

lemma itemComplaints_specs (joint : Joint) (index : ℕ) {ms : List Matcher}
    (h : ∀ m ∈ ms, complaints m.spec = .ok (m.complaints.map Complaint.atKey)) :
    itemComplaints joint index (Matcher.specs ms) =
      .ok ((Matcher.childComplaints joint index ms).map Complaint.atKey) := by
  induction ms generalizing index with
  | nil => rw [Matcher.specs, itemComplaints, Matcher.childComplaints, List.map_nil]
  | cons m rest ih =>
    have hunder : (m.complaints.map Complaint.atKey).map (Complaint.under ⟨joint, index⟩) =
        (m.complaints.map (Complaint.under ⟨joint, index⟩)).map Complaint.atKey := by
      rw [List.map_map, List.map_map]
      exact List.map_congr_left fun c _ => (Complaint.atKey_under _ c).symm
    rw [Matcher.specs, itemComplaints, h m (by simp), ih (index + 1) fun x hx => h x (by simp [hx]),
      Matcher.childComplaints, List.map_append, ← hunder]
    rfl

/-- A joint and its specification have the same complaints when its children do. -/
lemma complaints_joint_spec (joint : Joint) (mark : ℕ) {ms : List Matcher}
    (h : ∀ m ∈ ms, complaints m.spec = .ok (m.complaints.map Complaint.atKey)) :
    complaints (.dict [(.str joint.key, .list (Matcher.specs ms))]) =
      .ok ((joint.node mark ms).complaints.map Complaint.atKey) := by
  rw [complaints_joint (onlyKey_singleton joint.key _) (field?_key joint _)]
  cases ms with
  | nil => cases joint <;> rfl
  | cons m rest =>
    have hspecs : Matcher.specs (m :: rest) ≠ [] := by simp [Matcher.specs]
    rw [Matcher.complaints_node joint mark (List.cons_ne_nil m rest), listComplaints,
      itemComplaints_specs joint 0 h]
    exact hspecs

lemma buildAll_specs {ms : List Matcher} (h : ∀ m ∈ ms, build m.spec = .ok m.shape) :
    buildAll (Matcher.specs ms) = .ok (Matcher.shapes ms) := by
  induction ms with
  | nil => rw [Matcher.specs, buildAll, Matcher.shapes]
  | cons m rest ih =>
    rw [Matcher.specs, buildAll, h m (by simp), ih fun x hx => h x (by simp [hx]), Matcher.shapes]
    rfl

lemma build_joint_spec (joint : Joint) {ms : List Matcher}
    (h : ∀ m ∈ ms, build m.spec = .ok m.shape) :
    build (.dict [(.str joint.key, .list (Matcher.specs ms))]) =
      .ok (join joint (Matcher.shapes ms)) := by
  simp only [build, joint?_of_onlyKey (onlyKey_singleton joint.key _),
    buildEntry_eq (field?_key joint _), buildChildren, buildAll_specs h]
  rfl

/-! ### Trees -/

/-- **A matcher has the shape of what is built from its specification.** -/
theorem build_spec {m : Matcher} (h : m.Plain) : build m.spec = .ok m.shape := by
  induction h with
  | literal mark v =>
    simp [Matcher.spec, build, joint?_eq_none (onlyKey_singleton "literal" v), buildLeaf,
      field?_singleton, Matcher.shape]
  | regex mark r =>
    have hkey := onlyKey_regex r.pattern (.bool r.ignoreCase)
    have hmake : Regex.make r.pattern r.ignoreCase = .ok r := Regex.make_eq_ok_iff.mpr ⟨rfl, rfl⟩
    simp [Matcher.spec, build, joint?_eq_none hkey, buildLeaf_regex, buildRegex, hmake,
      Matcher.shape]
  | any mark _ ih => exact build_joint_spec .any ih
  | all mark _ ih => exact build_joint_spec .all ih

/-- **A matcher and its specification have the same complaints**, node by node and in one order. -/
theorem complaints_spec {m : Matcher} (h : m.Plain) :
    complaints m.spec = .ok (m.complaints.map Complaint.atKey) := by
  induction h with
  | literal mark v =>
    rw [Matcher.spec, complaints_literal (onlyKey_singleton "literal" v), Value.fieldD,
      field?_singleton, if_pos rfl, Option.getD_some, literalProblem_eq, Matcher.complaints]
  | regex mark r =>
    rw [Matcher.spec, complaints_regex (onlyKey_regex r.pattern (.bool r.ignoreCase)),
      Matcher.complaints, regexComplaints_atKey, ← regexProblem_eq]
    rfl
  | any mark _ ih => exact complaints_joint_spec .any mark ih
  | all mark _ ih => exact complaints_joint_spec .all mark ih

/-- **The checks and the builder agree.** What has a flawless specification is built into a matcher
that mirrors it and is flawless too, whatever the root is called. And a matcher, however broken its
leaves are, has the shape of what is built from its specification, and has as many complaints as its
specification has, about the same nodes in the same order; only the words for an empty literal
differ. -/
theorem checks_agree :
    (∀ v, complaints v = .ok [] → ∃ m, build v = .ok m ∧ Mirrors v m ∧
      ∀ root, m.complaints.map (Complaint.message root) = []) ∧
    ∀ m : Matcher, m.Plain → build m.spec = .ok m.shape ∧
      ∃ cs, complaints m.spec = .ok cs ∧ cs = m.complaints.map Complaint.atKey ∧
        cs.map Complaint.path = m.complaints.map Complaint.path := by
  refine ⟨fun v hv => ?_, fun m hm => ⟨build_spec hm, _, complaints_spec hm, rfl, ?_⟩⟩
  · obtain ⟨m, hbuild, hmirrors, husable⟩ := ((complaints_eq_nil_iff v).mp hv).builds
    refine ⟨m, hbuild, hmirrors, fun root => ?_⟩
    rw [husable.complaints_eq, List.map_nil]
  · rw [List.map_map]
    exact List.map_congr_left fun c _ => c.atKey_path

/-- A flawless specification, and a matcher with an empty literal, a joint without children and a
regular expression that is no text. -/
theorem checks_agree_badLeaves :
    let v : Value := .dict [(.str "any", .list [.str "x"])]
    let broken : Matcher := .any 3
      [.literal 1 (.str ""), .all 2 [], .regex 4 ⟨.null, true, .error .notText, rfl⟩]
    (complaints v = .ok [] ∧ ∃ m, build v = .ok m ∧ Mirrors v m ∧
      ∀ root, m.complaints.map (Complaint.message root) = []) ∧
    broken.Plain ∧ build broken.spec = .ok broken.shape ∧
      ∃ cs, complaints broken.spec = .ok cs ∧ cs = broken.complaints.map Complaint.atKey ∧
        cs.map Complaint.path = [[⟨.any, 0⟩], [⟨.any, 1⟩], [⟨.any, 2⟩]] := by
  intro v broken
  have hv : complaints v = .ok [] := rfl
  have hbroken : broken.Plain := by
    refine .any 3 fun child hchild => ?_
    simp only [List.mem_cons, List.not_mem_nil, or_false] at hchild
    rcases hchild with rfl | rfl | rfl
    · exact .literal 1 (.str "")
    · exact .all 2 (by simp)
    · exact .regex 4 _
  exact ⟨⟨hv, checks_agree.1 v hv⟩, hbroken, checks_agree.2 broken hbroken⟩

end Spec

end LineAudit
