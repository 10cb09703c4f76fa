import LineAudit.Proofs.Matcher.Breaks
import LineAudit.Proofs.Matcher.Path

/-!
The nodes that the check of specifications blames.

The check goes from a mapping to the items of its joint, and nowhere else. A node that it reaches is
malformed for what it holds itself, whatever may be below it. Main result: the check has one
complaint for each malformed node that it reaches, in preorder, and tells it after the way to the
node, so that no two nodes are told alike.
-/

namespace LineAudit

/-- Preorder: a node comes before those below it, and the children of a node come in their order
with all that is below them. -/
def NodePath.Before : NodePath → NodePath → Prop := List.Lex fun s t => s.index < t.index

lemma NodePath.Before.ne {p q : NodePath} (h : p.Before q) : p ≠ q := by
  rintro rfl
  exact List.lex_irrefl (fun step => Nat.lt_irrefl step.index) p h

/-- The part of a node that a problem is put to, as written after the way to the node. -/
def Problem.place : Problem → String
  | .emptyLiteralKey => ".literal"
  | .noAlternative joint | .notList joint _ => "." ++ joint.key
  | .emptyLiteral | .regex _ | .notSpec _ | .keyCount _ | .notMatcher _ => ""

lemma Problem.bracket_not_mem_place (problem : Problem) : '[' ∉ problem.place.toList := by
  cases problem with
  | noAlternative joint | notList joint => simp [place, joint.bracket_not_mem_key]
  | _ => simp [place]

/-- What is said about the part of a node that a problem is put to. -/
def Problem.reason : Problem → String
  | .emptyLiteral => "literal must be a non-empty string"
  | .emptyLiteralKey => "must be a non-empty string"
  | .regex problem => problem.message
  | .noAlternative _ => "expected at least one alternative"
  | .notList _ kind => "expected list, got " ++ kind
  | .notSpec kind => "expected string or dict, got " ++ kind
  | .keyCount keys =>
    "expected exactly one of " ++ (Value.list (specKeys.map .str)).display ++ ", got " ++
      (Value.list keys).display
  | .notMatcher kind => "expected Matcher, got " ++ kind

lemma Problem.text_eq (problem : Problem) :
    problem.text = problem.place ++ ": " ++ problem.reason := by
  apply String.toList_injective
  unfold text place reason
  -- the list of keys in the message is left as it is, or it would be evaluated
  generalize (Value.list (specKeys.map .str)).display = expected
  cases problem with
  | keyCount keys =>
    generalize (Value.list keys).display = found
    simp
  | _ => simp

namespace Spec

/-- The nodes that the check reaches from a specification, with the ways to them. -/
inductive Reaches : Value → NodePath → Value → Prop
  | here (v : Value) : Reaches v [] v
  | child (joint : Joint) {entries : List (Value × Value)} {items : List Value} {item node : Value}
      {index : ℕ} {path : NodePath} (hkey : OnlyKey joint.key entries)
      (hitems : Value.field? joint.key entries = some (.list items))
      (hitem : items[index]? = some item) (h : Reaches item path node) :
      Reaches (.dict entries) (⟨joint, index⟩ :: path) node

/-- What is malformed in the value of the key that says what a mapping is. -/
inductive Misfit (ignoreCase : Bool) (key : String) (v : Value) : Problem → Prop
  | literal (hkey : key = "literal") (h : ∀ s, v = .str s → s = "") :
      Misfit ignoreCase key v .emptyLiteralKey
  | notText (hkey : key = "regex") (h : ∀ s, v = .str s → s = "") :
      Misfit ignoreCase key v (.regex .notText)
  | pattern {s : String} {fault : Pattern.Fault} {position? : Option ℕ} (hkey : key = "regex")
      (hs : v = .str s) (hne : s ≠ "")
      (h : Pattern.compile s ignoreCase = .error (.malformed fault position?)) :
      Misfit ignoreCase key v (.regex (.malformed s fault position?))
  | notList (joint : Joint) (hkey : key = joint.key) (h : ∀ items, v ≠ .list items) :
      Misfit ignoreCase key v (.notList joint v.kindName)
  | noAlternative (joint : Joint) (hkey : key = joint.key) (h : v = .list []) :
      Misfit ignoreCase key v (.noAlternative joint)

/-- What is malformed in a node itself. -/
inductive Malformed : Value → Problem → Prop
  | emptyText : Malformed (.str "") .emptyLiteral
  | notSpec {v : Value} (hstr : ∀ s, v ≠ .str s) (hdict : ∀ entries, v ≠ .dict entries) :
      Malformed v (.notSpec v.kindName)
  | keyCount {entries : List (Value × Value)} {keys : List Value}
      (hkey : ∀ key ∈ specKeys, ¬ OnlyKey key entries)
      (hkeys : Value.sort? (entries.map Prod.fst) = some keys) :
      Malformed (.dict entries) (.keyCount keys)
  | entry {key : String} {entries : List (Value × Value)} {v : Value} {problem : Problem}
      (hmem : key ∈ specKeys) (hkey : OnlyKey key entries) (hv : Value.field? key entries = some v)
      (h : Misfit (ignoresCase entries) key v problem) : Malformed (.dict entries) problem

/-- All keys that the check comes by are texts, and patterns that cannot be compiled are
malformed. -/
structure Readable (v : Value) : Prop where
  keys : ∀ path entries, Reaches v path (.dict entries) →
    ∀ key ∈ entries.map Prod.fst, ∃ s, key = .str s
  patterns : ∀ path entries s refusal, Reaches v path (.dict entries) →
    Value.field? "regex" entries = some (.str s) →
    Pattern.compile s (ignoresCase entries) = .error refusal → ¬ refusal.Outright

/-! ### The check never breaks off -/

lemma Readable.item {joint : Joint} {entries : List (Value × Value)} {items : List Value}
    {item : Value} (h : Readable (.dict entries)) (hkey : OnlyKey joint.key entries)
    (hitems : Value.field? joint.key entries = some (.list items)) (hmem : item ∈ items) :
    Readable item := by
  obtain ⟨index, hitem⟩ := List.mem_iff_getElem?.mp hmem
  constructor
  · intro path entries' hreach
    exact h.keys _ entries' (.child joint hkey hitems hitem hreach)
  · intro path entries' s refusal hreach
    exact h.patterns _ entries' s refusal (.child joint hkey hitems hitem hreach)

lemma listable_of_texts {keys : List Value} (h : ∀ key ∈ keys, ∃ s, key = .str s) :
    Listable keys := by
  constructor
  · refine .inr ⟨.text, fun key hkey => ?_⟩
    obtain ⟨s, rfl⟩ := h key hkey
    rfl
  · intro key hkey
    obtain ⟨s, rfl⟩ := h key hkey
    rfl

lemma Breaks.not_readable {v : Value} (h : Breaks v) : ¬ Readable v := by
  induction h with
  | keys hkey h => exact fun hread => h (listable_of_texts (hread.keys [] _ (.here _)))
  | regex hkey hp h =>
    obtain ⟨s, refusal, rfl, -, hc, hout⟩ := h
    exact fun hread => hread.patterns [] _ s refusal (.here _) hp hc hout
  | joint joint hkey hitems hmem h ih => exact fun hread => ih (hread.item hkey hitems hmem)

lemma Readable.exists_complaints {v : Value} (h : Readable v) : ∃ cs, complaints v = .ok cs := by
  cases hc : complaints v with
  | ok cs => exact ⟨cs, rfl⟩
  | error failure => exact absurd h (breaks_of_complaints v hc).not_readable

lemma readable_text (s : String) : Readable (.str s) := by
  constructor
  · intro path entries hreach
    cases hreach
  · intro path entries s refusal hreach
    cases hreach

/-- A mapping is readable when its own keys and pattern are, and the items of its joint. -/
lemma readable_dict {entries : List (Value × Value)}
    (hkeys : ∀ key ∈ entries.map Prod.fst, ∃ s, key = .str s)
    (hpattern : ∀ s refusal, Value.field? "regex" entries = some (.str s) →
      Pattern.compile s (ignoresCase entries) = .error refusal → ¬ refusal.Outright)
    (hitems : ∀ joint items, Value.field? (Joint.key joint) entries = some (.list items) →
      ∀ item ∈ items, Readable item) : Readable (.dict entries) := by
  constructor
  · intro path entries' hreach
    cases hreach with
    | here => exact hkeys
    | child joint _ hfield hitem h =>
      exact (hitems joint _ hfield _ (List.mem_of_getElem? hitem)).keys _ entries' h
  · intro path entries' s refusal hreach
    cases hreach with
    | here => exact hpattern s refusal
    | child joint _ hfield hitem h =>
      exact (hitems joint _ hfield _ (List.mem_of_getElem? hitem)).patterns _ entries' s refusal h

/-! ### Complaints about some nodes -/

/-- The complaints are about the malformed ones of some nodes, one for each, and in preorder. -/
structure Blames (node : NodePath → Value → Prop) (cs : List Complaint) : Prop where
  mem_iff : ∀ c, c ∈ cs ↔ ∃ v, node c.path v ∧ Malformed v c.problem
  ordered : cs.Pairwise fun c d => c.path.Before d.path

namespace Blames

variable {node other : NodePath → Value → Prop} {cs ds : List Complaint}

lemma nil (h : ∀ path v problem, node path v → ¬ Malformed v problem) : Blames node [] := by
  refine ⟨fun c => ?_, .nil⟩
  simpa using fun v hv => h c.path v c.problem hv

lemma congr (h : Blames node cs) (hsame : ∀ path v, other path v ↔ node path v) :
    Blames other cs :=
  ⟨fun c => by simp only [hsame, h.mem_iff], h.ordered⟩

/-- Complaints about the nodes below a child, seen from its parent. -/
lemma under (h : Blames node cs) (step : NodeStep) :
    Blames (fun path v => ∃ rest, path = step :: rest ∧ node rest v)
      (cs.map (Complaint.under step)) := by
  constructor
  · intro c
    rw [List.mem_map]
    constructor
    · rintro ⟨d, hd, rfl⟩
      obtain ⟨v, hv, hmal⟩ := (h.mem_iff d).mp hd
      exact ⟨v, ⟨d.path, rfl, hv⟩, hmal⟩
    · rintro ⟨v, ⟨rest, hpath, hv⟩, hmal⟩
      refine ⟨⟨rest, c.problem⟩, (h.mem_iff _).mpr ⟨v, hv, hmal⟩, ?_⟩
      rw [Complaint.under, ← hpath]
  · exact List.pairwise_map.mpr (h.ordered.imp fun hlt => .cons hlt)

/-- Complaints about some nodes, followed by complaints about nodes after them. -/
lemma append (h : Blames node cs) (h' : Blames other ds)
    (hlt : ∀ p v q w, node p v → other q w → p.Before q) :
    Blames (fun path v => node path v ∨ other path v) (cs ++ ds) := by
  constructor
  · intro c
    rw [List.mem_append, h.mem_iff, h'.mem_iff]
    constructor
    · rintro (⟨v, hv, hmal⟩ | ⟨v, hv, hmal⟩)
      · exact ⟨v, .inl hv, hmal⟩
      · exact ⟨v, .inr hv, hmal⟩
    · rintro ⟨v, hv | hv, hmal⟩
      · exact .inl ⟨v, hv, hmal⟩
      · exact .inr ⟨v, hv, hmal⟩
  · refine List.pairwise_append.mpr ⟨h.ordered, h'.ordered, fun c hc d hd => ?_⟩
    obtain ⟨v, hv, -⟩ := (h.mem_iff c).mp hc
    obtain ⟨w, hw, -⟩ := (h'.mem_iff d).mp hd
    exact hlt _ v _ w hv hw

end Blames

/-! ### Nodes without children -/

/-- The check goes no further than to a node that is no joint of items. -/
lemma reaches_iff_of_childless {v : Value}
    (h : ∀ joint entries items, v = .dict entries → OnlyKey (Joint.key joint) entries →
      Value.field? joint.key entries = some (.list items) → items = [])
    (path : NodePath) (node : Value) : Reaches v path node ↔ path = [] ∧ node = v := by
  constructor
  · intro hreach
    cases hreach with
    | here => exact ⟨rfl, rfl⟩
    | child joint hkey hitems hitem _ =>
      obtain rfl := h joint _ _ rfl hkey hitems
      simp at hitem
  · rintro ⟨rfl, rfl⟩
    exact .here _

variable {v : Value} {problem : Problem} {ignoreCase : Bool}

lemma blames_of_childless (hreach : ∀ path node, Reaches v path node ↔ path = [] ∧ node = v)
    (h : ∀ q, Malformed v q ↔ q = problem) : Blames (Reaches v) (Matcher.complain problem) := by
  constructor
  · rintro ⟨path, q⟩
    simp [Matcher.complain, hreach, h]
  · exact List.pairwise_singleton _ _

lemma blames_nil_of_childless (hreach : ∀ path node, Reaches v path node ↔ path = [] ∧ node = v)
    (h : ∀ q, ¬ Malformed v q) : Blames (Reaches v) [] := by
  refine .nil fun path node q hnode => ?_
  obtain ⟨-, rfl⟩ := (hreach path node).mp hnode
  exact h q

/-! ### The value of a key -/

lemma OnlyKey.eq {key key' : String} {entries : List (Value × Value)} (h : OnlyKey key entries)
    (h' : OnlyKey key' entries) (hmem : key ∈ specKeys) : key = key' :=
  (h' key hmem).mp ((h key hmem).mpr rfl)

lemma malformed_dict_iff {key : String} {entries : List (Value × Value)} (hmem : key ∈ specKeys)
    (hkey : OnlyKey key entries) (hv : Value.field? key entries = some v) :
    Malformed (.dict entries) problem ↔ Misfit (ignoresCase entries) key v problem := by
  constructor
  · intro h
    cases h with
    | notSpec _ hdict => exact absurd rfl (hdict entries)
    | keyCount hno _ => exact absurd hkey (hno key hmem)
    | entry hmem' hkey' hv' h =>
      obtain rfl := hkey'.eq hkey hmem'
      obtain rfl := Option.some.inj (hv'.symm.trans hv)
      exact h
  · exact fun h => .entry hmem hkey hv h

lemma misfit_literal_iff :
    Misfit ignoreCase "literal" v problem ↔
      problem = .emptyLiteralKey ∧ ∀ s, v = .str s → s = "" := by
  constructor
  · intro h
    cases h with
    | literal _ h => exact ⟨rfl, h⟩
    | notText hkey | pattern hkey => simp at hkey
    | notList joint hkey | noAlternative joint hkey => cases joint <;> simp [Joint.key] at hkey
  · rintro ⟨rfl, h⟩
    exact .literal rfl h

lemma misfit_joint_iff (joint : Joint) :
    Misfit ignoreCase joint.key v problem ↔
      (problem = .notList joint v.kindName ∧ ∀ items, v ≠ .list items) ∨
        (problem = .noAlternative joint ∧ v = .list []) := by
  constructor
  · intro h
    cases h with
    | literal hkey | notText hkey | pattern hkey => cases joint <;> simp [Joint.key] at hkey
    | notList joint' hkey h =>
      obtain rfl := Joint.key_injective hkey
      exact .inl ⟨rfl, h⟩
    | noAlternative joint' hkey h =>
      obtain rfl := Joint.key_injective hkey
      exact .inr ⟨rfl, h⟩
  · rintro (⟨rfl, h⟩ | ⟨rfl, h⟩)
    · exact .notList joint rfl h
    · exact .noAlternative joint rfl h

lemma misfit_regex_iff :
    Misfit ignoreCase "regex" v problem ↔
      ∃ mistake, problem = .regex mistake ∧ readRegex v ignoreCase = .ok (.error mistake) := by
  simp only [readRegex_eq_problem_iff]
  constructor
  · intro h
    cases h with
    | literal hkey => simp at hkey
    | notText _ h => exact ⟨_, rfl, .inl ⟨rfl, h⟩⟩
    | pattern _ hs hne h => exact ⟨_, rfl, .inr ⟨_, _, _, rfl, hs, hne, h⟩⟩
    | notList joint hkey | noAlternative joint hkey => cases joint <;> simp [Joint.key] at hkey
  · rintro ⟨-, rfl, ⟨rfl, h⟩ | ⟨s, fault, position?, rfl, hs, hne, h⟩⟩
    · exact .notText rfl h
    · exact .pattern rfl hs hne h

lemma regexProblem_eq_ok {cs : List Complaint} (h : regexProblem v ignoreCase = .ok cs) :
    (cs = [] ∧ ∃ program, readRegex v ignoreCase = .ok (.ok program)) ∨
      ∃ mistake, cs = Matcher.complain (.regex mistake) ∧
        readRegex v ignoreCase = .ok (.error mistake) := by
  unfold regexProblem at h
  split at h
  next r hr =>
    obtain ⟨rfl, rfl⟩ := Regex.make_eq_ok_iff.mp hr
    obtain rfl := Except.ok.inj h
    have hread := r.read_eq
    cases hp : r.program with
    | ok program =>
      rw [hp] at hread
      exact .inl ⟨by simp [Matcher.regexComplaints, Regex.problem?, hp], program, hread⟩
    | error mistake =>
      rw [hp] at hread
      exact .inr ⟨mistake, by simp [Matcher.regexComplaints, Regex.problem?, hp], hread⟩
  next => cases h

/-! ### The items of a joint -/

/-- The nodes at and below items, the first of which has the given index. -/
def ReachesItem (joint : Joint) (index : ℕ) (items : List Value) (path : NodePath)
    (node : Value) : Prop :=
  ∃ i item rest, items[i]? = some item ∧ path = ⟨joint, index + i⟩ :: rest ∧
    Reaches item rest node

lemma reachesItem_cons_iff (joint : Joint) (index : ℕ) (item : Value) (items : List Value)
    (path : NodePath) (node : Value) :
    ReachesItem joint index (item :: items) path node ↔
      (∃ rest, path = ⟨joint, index⟩ :: rest ∧ Reaches item rest node) ∨
        ReachesItem joint (index + 1) items path node := by
  constructor
  · rintro ⟨i, item', rest, hitem, rfl, hreach⟩
    cases i with
    | zero =>
      obtain rfl : item = item' := by simpa using hitem
      exact .inl ⟨rest, rfl, hreach⟩
    | succ i =>
      refine .inr ⟨i, item', rest, by simpa using hitem, ?_, hreach⟩
      rw [Nat.add_right_comm, Nat.add_assoc]
  · rintro (⟨rest, rfl, hreach⟩ | ⟨i, item', rest, hitem, rfl, hreach⟩)
    · exact ⟨0, item, rest, rfl, rfl, hreach⟩
    · refine ⟨i + 1, item', rest, by simpa using hitem, ?_, hreach⟩
      rw [Nat.add_right_comm, Nat.add_assoc]

lemma reaches_iff_of_items {joint : Joint} {entries : List (Value × Value)} {items : List Value}
    (hkey : OnlyKey joint.key entries)
    (hitems : Value.field? joint.key entries = some (.list items)) (path : NodePath)
    (node : Value) :
    Reaches (.dict entries) path node ↔
      (path = [] ∧ node = .dict entries) ∨ ReachesItem joint 0 items path node := by
  constructor
  · intro h
    cases h with
    | here => exact .inl ⟨rfl, rfl⟩
    | child joint' hkey' hitems' hitem h =>
      obtain rfl := Joint.key_injective (hkey'.eq hkey joint'.key_mem)
      obtain rfl := Value.list.inj (Option.some.inj (hitems'.symm.trans hitems))
      exact .inr ⟨_, _, _, hitem, by rw [Nat.zero_add], h⟩
  · rintro (⟨rfl, rfl⟩ | ⟨i, item, rest, hitem, rfl, h⟩)
    · exact .here _
    · rw [Nat.zero_add]
      exact .child joint hkey hitems hitem h

/-- The step over the items: what is said about each of them is said about all of them. -/
lemma blames_items {joint : Joint} {index : ℕ} {items : List Value} {cs : List Complaint}
    (h : itemComplaints joint index items = .ok cs)
    (ih : ∀ item ∈ items, ∀ ds, complaints item = .ok ds → Blames (Reaches item) ds) :
    Blames (ReachesItem joint index items) cs := by
  induction items generalizing index cs with
  | nil =>
    obtain rfl : [] = cs := by simpa [itemComplaints] using h
    refine .nil fun path node problem hnode => ?_
    obtain ⟨i, item, rest, hitem, -⟩ := hnode
    simp at hitem
  | cons item items ihitems =>
    rw [itemComplaints] at h
    obtain ⟨here, hhere, h⟩ := bind_eq_ok_iff.mp h
    obtain ⟨below, hbelow, h⟩ := bind_eq_ok_iff.mp h
    obtain rfl := pure_eq_ok_iff.mp h
    obtain ⟨hfirst, hrest⟩ := List.forall_mem_cons.mp ih
    refine (((hfirst here hhere).under ⟨joint, index⟩).append (ihitems hbelow hrest) ?_).congr
      (reachesItem_cons_iff joint index item items)
    -- the indices of the later items are larger, which decides the order at the first step
    rintro _ v _ w ⟨rest, rfl, -⟩ ⟨i, item', rest', -, rfl, -⟩
    exact .rel (by simp only; omega)

/-! ### The check of specifications -/

lemma blames_joint {joint : Joint} {entries : List (Value × Value)} {w : Value}
    {cs : List Complaint} (hkey : OnlyKey joint.key entries)
    (hw : Value.field? joint.key entries = some w) (h : listComplaints joint w = .ok cs)
    (ih : ∀ items, w = .list items → ∀ item ∈ items, ∀ ds, complaints item = .ok ds →
      Blames (Reaches item) ds) : Blames (Reaches (.dict entries)) cs := by
  have hmal (q : Problem) :
      Malformed (.dict entries) q ↔ Misfit (ignoresCase entries) joint.key w q :=
    malformed_dict_iff joint.key_mem hkey hw
  have hvalue (joint' : Joint) (entries' : List (Value × Value)) (items : List Value)
      (he : Value.dict entries = .dict entries') (hkey' : OnlyKey joint'.key entries')
      (hitems : Value.field? joint'.key entries' = some (.list items)) : w = .list items := by
    obtain rfl := Value.dict.inj he
    rw [hkey'.eq hkey joint'.key_mem, hw] at hitems
    exact Option.some.inj hitems
  unfold listComplaints at h
  split at h
  next =>
    obtain rfl := Except.ok.inj h
    refine blames_of_childless (reaches_iff_of_childless fun joint' entries' items he hk hi => ?_)
      fun q => by simp [hmal, misfit_joint_iff]
    exact (Value.list.inj (hvalue joint' entries' items he hk hi)).symm
  next items hne =>
    have hitems := blames_items h (ih items rfl)
    constructor
    · intro c
      rw [hitems.mem_iff]
      constructor
      · rintro ⟨v, hv, hmalformed⟩
        exact ⟨v, (reaches_iff_of_items hkey hw _ _).mpr (.inr hv), hmalformed⟩
      · rintro ⟨v, hv, hmalformed⟩
        rcases (reaches_iff_of_items hkey hw _ _).mp hv with ⟨-, rfl⟩ | hv
        · rw [hmal, misfit_joint_iff] at hmalformed
          simp_all
        · exact ⟨v, hv, hmalformed⟩
    · exact hitems.ordered
  next _ hlist =>
    obtain rfl := Except.ok.inj h
    refine blames_of_childless (reaches_iff_of_childless fun joint' entries' items he hk hi => ?_)
      fun q => ?_
    · exact absurd (hvalue joint' entries' items he hk hi) (hlist items)
    · rw [hmal, misfit_joint_iff]
      simp_all

lemma blames_text (s : String) :
    Blames (Reaches (.str s)) (if s.isEmpty then Matcher.complain .emptyLiteral else []) := by
  have hreach := reaches_iff_of_childless (v := .str s) fun _ _ _ he => by cases he
  have hmal (q : Problem) : Malformed (.str s) q ↔ s = "" ∧ q = .emptyLiteral := by
    constructor
    · intro h
      cases h with
      | emptyText => exact ⟨rfl, rfl⟩
      | notSpec hstr => exact absurd rfl (hstr s)
    · rintro ⟨rfl, rfl⟩
      exact .emptyText
  split
  next hs => exact blames_of_childless hreach fun q => by simp_all
  next hs => exact blames_nil_of_childless hreach fun q => by simp_all

lemma blames_other (hstr : ∀ s, v ≠ .str s) (hdict : ∀ entries, v ≠ .dict entries) :
    Blames (Reaches v) (Matcher.complain (.notSpec v.kindName)) := by
  have hreach := reaches_iff_of_childless (v := v) fun _ entries _ he => absurd he (hdict entries)
  refine blames_of_childless hreach fun q => ⟨fun h => ?_, ?_⟩
  · cases h with
    | emptyText => exact absurd rfl (hstr "")
    | notSpec => rfl
    | keyCount | entry => exact absurd rfl (hdict _)
  · rintro rfl
    exact .notSpec hstr hdict

lemma sort?_of_sortedKeys {entries : List (Value × Value)} {keys : List Value}
    (h : sortedKeys entries = .ok keys) : Value.sort? (entries.map Prod.fst) = some keys := by
  unfold sortedKeys at h
  split at h
  next hsort =>
    split at h
    · rw [hsort, Except.ok.inj h]
    · cases h
  next => cases h

lemma blames_noKey {entries : List (Value × Value)} {cs : List Complaint}
    (hno : ∀ key ∈ specKeys, ¬ OnlyKey key entries) (h : complaints (.dict entries) = .ok cs) :
    Blames (Reaches (.dict entries)) cs := by
  rw [complaints_of_noKey hno] at h
  obtain ⟨keys, hkeys, h⟩ := bind_eq_ok_iff.mp h
  obtain rfl := pure_eq_ok_iff.mp h
  have hreach := reaches_iff_of_childless (v := .dict entries) fun joint entries' _ he hkey => by
    obtain rfl := Value.dict.inj he
    exact absurd hkey (hno _ joint.key_mem)
  refine blames_of_childless hreach fun q => ⟨fun h => ?_, ?_⟩
  · cases h with
    | notSpec _ hdict => exact absurd rfl (hdict entries)
    | keyCount _ hkeys' =>
      rw [Option.some.inj (hkeys'.symm.trans (sort?_of_sortedKeys hkeys))]
    | entry hmem hkey => exact absurd hkey (hno _ hmem)
  · rintro rfl
    exact .keyCount hno (sort?_of_sortedKeys hkeys)

lemma reaches_iff_of_leaf {key : String} {entries : List (Value × Value)} (hmem : key ∈ specKeys)
    (hkey : OnlyKey key entries) (hne : ∀ joint : Joint, key ≠ joint.key) (path : NodePath)
    (node : Value) : Reaches (.dict entries) path node ↔ path = [] ∧ node = .dict entries := by
  refine reaches_iff_of_childless (fun joint entries' items he hk hi => ?_) path node
  obtain rfl := Value.dict.inj he
  exact absurd (hkey.eq hk hmem) (hne joint)

lemma blames_literal {entries : List (Value × Value)} {w : Value}
    (hkey : OnlyKey "literal" entries) (hw : Value.field? "literal" entries = some w) :
    Blames (Reaches (.dict entries)) (literalProblem w) := by
  have hreach := reaches_iff_of_leaf (by decide) hkey (by rintro (_ | _) <;> decide)
  have hmal (q : Problem) : Malformed (.dict entries) q ↔ _ :=
    (malformed_dict_iff (by decide) hkey hw).trans misfit_literal_iff
  unfold literalProblem
  split
  next s =>
    split
    next hs => exact blames_of_childless hreach fun q => by simp_all
    next hs => exact blames_nil_of_childless hreach fun q => by simp_all
  next hno => exact blames_of_childless hreach fun q => by simp_all

lemma blames_regex {entries : List (Value × Value)} {w : Value} {cs : List Complaint}
    (hkey : OnlyKey "regex" entries) (hw : Value.field? "regex" entries = some w)
    (h : regexProblem w (ignoresCase entries) = .ok cs) : Blames (Reaches (.dict entries)) cs := by
  have hreach := reaches_iff_of_leaf (by decide) hkey (by rintro (_ | _) <;> decide)
  have hmal (q : Problem) : Malformed (.dict entries) q ↔ _ :=
    (malformed_dict_iff (by decide) hkey hw).trans misfit_regex_iff
  rcases regexProblem_eq_ok h with ⟨rfl, program, hread⟩ | ⟨mistake, rfl, hread⟩
  · exact blames_nil_of_childless hreach fun q => by simp [hmal, hread]
  · exact blames_of_childless hreach fun q => by simp [hmal, hread]

/-- **The check has one complaint for each malformed node that it reaches, in preorder.** -/
theorem blames_of_complaints (v : Value) {cs : List Complaint} (h : complaints v = .ok cs) :
    Blames (Reaches v) cs := by
  match v, h with
  | .str s, h =>
    rw [complaints] at h
    exact Except.ok.inj h ▸ blames_text s
  | .dict entries, h =>
    by_cases hno : ∀ key ∈ specKeys, ¬ OnlyKey key entries
    · exact blames_noKey hno h
    · simp only [not_forall, not_not] at hno
      obtain ⟨key, hmem, hkey⟩ := hno
      obtain ⟨w, hw⟩ := Option.isSome_iff_exists.mp ((hkey key hmem).mpr rfl)
      rcases specKeys_cases hmem with rfl | rfl | ⟨joint, rfl⟩
      · rw [complaints_literal hkey, Value.fieldD, hw, Option.getD_some] at h
        exact Except.ok.inj h ▸ blames_literal hkey hw
      · rw [complaints_regex hkey, Value.fieldD, hw, Option.getD_some] at h
        exact blames_regex hkey hw h
      · rw [complaints_joint hkey hw] at h
        refine blames_joint hkey hw h fun items hitems item hitem ds hds => ?_
        exact blames_of_complaints item hds
  | .null, h | .bool _, h | .int _, h | .float _, h | .bytes _, h | .date _, h | .moment _, h
  | .list _, h | .tuple _, h | .set _, h =>
    rw [complaints] at h
    · obtain rfl := Except.ok.inj h
      exact blames_other (by simp) (by simp)
    all_goals simp
termination_by sizeOf v
decreasing_by
  have hfield := Value.sizeOf_find?_lt hw
  have hmem := List.sizeOf_lt_of_mem hitem
  simp_all
  omega

/-! ### Complaints in words -/

/-- Words after the way to a node name the node itself, or the one key that says what it is. -/
def NamesPart (node : Value) (place : String) : Prop :=
  place = "" ∨ ∃ key entries, key ∈ specKeys ∧ node = .dict entries ∧ OnlyKey key entries ∧
    place = "." ++ key

lemma Malformed.namesPart {node : Value} (h : Malformed node problem) :
    NamesPart node problem.place := by
  cases h with
  | emptyText | notSpec | keyCount => exact .inl rfl
  | entry hmem hkey hv h =>
    cases h with
    | notText | pattern => exact .inl rfl
    | literal hlit => exact .inr ⟨_, _, hmem, rfl, hkey, by rw [hlit]; rfl⟩
    | notList joint hjoint | noAlternative joint hjoint =>
      exact .inr ⟨_, _, hmem, rfl, hkey, by rw [hjoint]; rfl⟩

lemma Blames.pairwise_ne {node : NodePath → Value → Prop} {cs : List Complaint}
    (h : Blames node cs) : cs.Pairwise fun c d => c.path ≠ d.path :=
  h.ordered.imp NodePath.Before.ne

/-- **The check recognises the grammar, and otherwise blames each malformed node that it reaches
once, in preorder, and by a name of its own.** -/
theorem complaints_blame {v : Value} (h : Readable v) (root : String) :
    ∃ cs, complaints v = .ok cs ∧ (cs.map (Complaint.message root) = [] ↔ WellFormed v) ∧
      (∀ c, c ∈ cs ↔ ∃ node, Reaches v c.path node ∧ Malformed node c.problem) ∧
      cs.Pairwise (fun c d => c.path.Before d.path) ∧
      (∀ c ∈ cs, ∃ node, Reaches v c.path node ∧ NamesPart node c.problem.place ∧ c.message root =
        NodePath.text root c.path ++ c.problem.place ++ ": " ++ c.problem.reason) ∧
      (cs.map fun c => NodePath.text root c.path).Nodup ∧
      (cs.map fun c => NodePath.text root c.path ++ c.problem.place).Nodup := by
  obtain ⟨cs, hcs⟩ := h.exists_complaints
  have hblames := blames_of_complaints v hcs
  refine ⟨cs, hcs, ?_, hblames.mem_iff, hblames.ordered, fun c hc => ?_, ?_, ?_⟩
  · rw [List.map_eq_nil_iff, ← complaints_eq_nil_iff, hcs, Except.ok.injEq]
  · obtain ⟨node, hreach, hmal⟩ := (hblames.mem_iff c).mp hc
    refine ⟨node, hreach, hmal.namesPart, ?_⟩
    rw [Complaint.message, Problem.text_eq, ← String.append_assoc, ← String.append_assoc]
  · refine List.pairwise_map.mpr (hblames.pairwise_ne.imp fun hne hsame => hne ?_)
    exact NodePath.text_injective root hsame
  · refine List.pairwise_map.mpr (hblames.pairwise_ne.imp fun hne hsame => hne ?_)
    exact (NodePath.text_append_inj (Problem.bracket_not_mem_place _)
      (Problem.bracket_not_mem_place _) hsame).1

/-- An alternative without words, and one that asks for nothing. -/
def twoFlaws : Value :=
  .dict [(.str "any", .list [.str "", .dict [(.str "all", .list [])]])]

lemma twoFlaws_readable : Readable twoFlaws := by
  have hinner : Readable (.dict [(.str "all", .list [])]) := by
    refine readable_dict (by simp) (fun s refusal hs => ?_) fun joint items hitems => ?_
    · simp [Value.field?, Value.find?, Value.sameKey] at hs
    · cases joint with
      | any => simp [Value.field?, Value.find?, Value.sameKey, Joint.key] at hitems
      | all =>
        obtain rfl := Value.list.inj (Option.some.inj hitems)
        simp
  refine readable_dict (by simp) (fun s refusal hs => ?_) fun joint items hitems => ?_
  · simp [Value.field?, Value.find?, Value.sameKey] at hs
  · cases joint with
    | any =>
      obtain rfl := Value.list.inj (Option.some.inj hitems)
      simp [readable_text, hinner]
    | all => simp [Value.field?, Value.find?, Value.sameKey, Joint.key] at hitems

theorem complaints_blame_twoFlaws :
    Readable twoFlaws ∧ ∃ cs, complaints twoFlaws = .ok cs ∧
      cs.map (Complaint.message "pattern") =
        ["pattern.any[0]: literal must be a non-empty string",
          "pattern.any[1].all: expected at least one alternative"] ∧
      ¬ WellFormed twoFlaws ∧
      (cs.map fun c => NodePath.text "pattern" c.path ++ c.problem.place).Nodup := by
  obtain ⟨cs, hcs, hgrammar, -, -, -, -, hnodup⟩ := complaints_blame twoFlaws_readable "pattern"
  have hboth : complaints twoFlaws =
      .ok [⟨[⟨.any, 0⟩], .emptyLiteral⟩, ⟨[⟨.any, 1⟩], .noAlternative .all⟩] := by
    rfl
  obtain rfl := Except.ok.inj (hcs.symm.trans hboth)
  refine ⟨twoFlaws_readable, _, hcs, ?_, ?_, hnodup⟩
  · rfl
  · rw [← hgrammar]
    simp

end Spec

end LineAudit
