import LineAudit.Analyzer.Payload
import LineAudit.Proofs.Outcome

/-!
The shape that the data of the analyzer must have.

What counts as false may stand for any missing part. Of the elements of a result only those up to
the first that names a file are looked at, and results without a known impact are not looked at at
all. Main result: data is read exactly when it has this shape.
-/

namespace LineAudit.AnalyzerPayload

open Value (fieldD)

/-- A value that counts as false, or a mapping with a property. -/
def MappingWith (P : List (Value × Value) → Prop) (v : Value) : Prop :=
  v.isTrue = false ∨ ∃ entries, v = .dict entries ∧ P entries

/-- A value that has nothing to look through, or a list with a property. -/
def ItemsWith (P : List Value → Prop) (v : Value) : Prop :=
  v.isTrue = false ∨ (∃ s, v = .str s) ∨ (∃ entries, v = .dict entries) ∨
    ∃ items, v = .list items ∧ P items

/-- A value that stands for a whole number. -/
inductive NumberLike : Value → Prop
  | int (n : Int) : NumberLike (.int n)
  | bool (b : Bool) : NumberLike (.bool b)
  | float {x : Binary64} {n : Int} (h : x.truncate? = some n) : NumberLike (.float x)
  | str {s : String} {n : Int} (h : Number.readInteger s = .ok n) : NumberLike (.str s)

/-- A value that counts as false, or one whose first item stands for a whole number. -/
inductive LinesLike : Value → Prop
  | nothing {v : Value} (h : v.isTrue = false) : LinesLike v
  | list {first : Value} (h : NumberLike first) (rest : List Value) :
    LinesLike (.list (first :: rest))
  | str {s : String} (h : NumberLike (.str (firstChars 1 s))) : LinesLike (.str s)

/-- An element names a file. -/
def NamesFile (element : Value) : Prop :=
  ∃ entries mapping file, element = .dict entries ∧
    fieldD "source_mapping" entries = .dict mapping ∧ fileName? mapping = some file

/-- If an element is a mapping, then so is its source mapping, with lines if it names a file. -/
def ElementLike (element : Value) : Prop :=
  ∀ entries, element = .dict entries → MappingWith
    (fun mapping => (fileName? mapping).isSome → LinesLike (fieldD "lines" mapping))
    (fieldD "source_mapping" entries)

/-- Elements have their shape up to the first one that names a file. -/
def ElementsLike (elements : List Value) : Prop :=
  ∀ before element after, elements = before ++ element :: after →
    (∀ x ∈ before, ¬ NamesFile x) → ElementLike element

/-- If a result is a mapping with a known impact, then its elements have their shape. -/
def ResultLike (result : Value) : Prop :=
  ∀ entries, result = .dict entries → (impactSeverity? (fieldOr "impact" "" entries)).isSome →
    ItemsWith ElementsLike (fieldD "elements" entries)

/-- The shape of all data. -/
def PayloadLike (payload : List (Value × Value)) : Prop :=
  MappingWith
    (fun results => ItemsWith (fun detectors => ∀ x ∈ detectors, ResultLike x)
      (fieldD "detectors" results))
    (fieldD "results" payload)

/-! ### Reading parts -/

section Parts

variable {β : Type} {v : Value}

lemma mappingOf_then {f : List (Value × Value) → Except PayloadFailure β}
    (hnil : ∃ b, f [] = .ok b) :
    (∃ b, mappingOf v >>= f = .ok b) ↔ MappingWith (fun entries => ∃ b, f entries = .ok b) v := by
  unfold mappingOf MappingWith
  by_cases hv : v.isTrue = false
  · simpa [hv, bind, Except.bind] using hnil
  · cases v <;> simp [hv, bind, Except.bind]

lemma itemsOf_then {f : List Value → Except PayloadFailure β} (hnil : ∃ b, f [] = .ok b) :
    (∃ b, itemsOf v >>= f = .ok b) ↔ ItemsWith (fun items => ∃ b, f items = .ok b) v := by
  unfold itemsOf ItemsWith
  by_cases hv : v.isTrue = false
  · simpa [hv, bind, Except.bind] using hnil
  · cases v <;> simp [hv, bind, Except.bind, hnil]

lemma exists_wholeNumber_iff : (∃ n, wholeNumber v = .ok n) ↔ NumberLike v := by
  constructor
  · rintro ⟨n, h⟩
    unfold wholeNumber at h
    split at h
    next m => exact .int m
    next b => exact .bool b
    next x =>
      split at h
      next m hm => exact .float hm
      next => split at h <;> cases h
    next s =>
      split at h
      next m hm => exact .str hm
      next => cases h
    next => cases h
  · rintro (n | b | @⟨x, n, h⟩ | @⟨s, n, h⟩)
    · exact ⟨n, rfl⟩
    · exact ⟨_, rfl⟩
    · exact ⟨n, by rw [wholeNumber, h]⟩
    · exact ⟨n, by rw [wholeNumber, h]⟩

lemma exists_firstLine_iff : (∃ line?, firstLine v = .ok line?) ↔ LinesLike v := by
  have hmap (w : Value) :
      (∃ line?, (wholeNumber w).map some = .ok line?) ↔ NumberLike w := by
    rw [← exists_wholeNumber_iff]
    cases wholeNumber w <;> simp [Except.map]
  unfold firstLine
  by_cases hv : v.isTrue = false
  · simpa [hv] using LinesLike.nothing hv
  · rw [if_neg (by simpa using hv)]
    constructor
    · intro h
      split at h
      next first rest => exact .list ((hmap first).mp h) rest
      next s => exact .str ((hmap _).mp h)
      next => obtain ⟨_, h⟩ := h; cases h
      next => obtain ⟨_, h⟩ := h; cases h
    · rintro (hno | ⟨h, rest⟩ | h)
      · exact absurd hno hv
      · exact (hmap _).mpr h
      · exact (hmap _).mpr h

end Parts

/-! ### Elements -/

lemma elementPlace?_dict (entries : List (Value × Value)) :
    elementPlace? (.dict entries) = mappingOf (fieldD "source_mapping" entries) >>= fun mapping =>
      match fileName? mapping with
      | some file => do return some (file, ← firstLine (fieldD "lines" mapping))
      | none => return none :=
  rfl

lemma exists_elementPlace?_iff (element : Value) :
    (∃ place?, elementPlace? element = .ok place?) ↔ ElementLike element := by
  cases element with
  | dict entries =>
    have hplace (mapping : List (Value × Value)) :
        (∃ place?, (match fileName? mapping with
          | some file => do return some (file, ← firstLine (fieldD "lines" mapping))
          | none => return none : Except PayloadFailure (Option (String × Option Int))) =
            .ok place?) ↔
          ((fileName? mapping).isSome → LinesLike (fieldD "lines" mapping)) := by
      rw [← exists_firstLine_iff]
      cases fileName? mapping with
      | none => simp [pure_eq_ok_iff]
      | some file =>
        cases firstLine (fieldD "lines" mapping) <;>
          simp [bind, Except.bind, pure, Except.pure]
    rw [elementPlace?_dict, mappingOf_then ⟨none, rfl⟩]
    simp only [hplace]
    simp [ElementLike]
  | _ => simp [elementPlace?, ElementLike]

lemma namesFile_iff {entries mapping : List (Value × Value)}
    (h : mappingOf (fieldD "source_mapping" entries) = .ok mapping) :
    NamesFile (.dict entries) ↔ (fileName? mapping).isSome := by
  rw [Option.isSome_iff_exists]
  constructor
  · rintro ⟨_, given, file, hentries, hgiven, hfile⟩
    obtain rfl := Value.dict.inj hentries
    rw [hgiven] at h
    cases given with
    | nil => simp [fileName?, fieldD, Value.field?, Value.find?, Value.isTrue] at hfile
    | cons => exact ⟨file, (Except.ok.inj h) ▸ hfile⟩
  · rintro ⟨file, hfile⟩
    unfold mappingOf at h
    split at h
    next =>
      obtain rfl := Except.ok.inj h
      simp [fileName?, fieldD, Value.field?, Value.find?, Value.isTrue] at hfile
    next =>
      split at h
      next given hgiven => exact ⟨entries, given, file, rfl, hgiven, (Except.ok.inj h) ▸ hfile⟩
      next => cases h

/-- What is read of an element is a place exactly when the element names a file. -/
lemma isSome_of_elementPlace? {element : Value} {place? : Option (String × Option Int)}
    (h : elementPlace? element = .ok place?) : place?.isSome ↔ NamesFile element := by
  cases element with
  | dict entries =>
    rw [elementPlace?_dict] at h
    obtain ⟨mapping, hmapping, h⟩ := bind_eq_ok_iff.mp h
    rw [namesFile_iff hmapping]
    cases hname : fileName? mapping with
    | none =>
      rw [hname] at h
      obtain rfl := pure_eq_ok_iff.mp h
      rfl
    | some file =>
      rw [hname] at h
      obtain ⟨line?, -, h⟩ := bind_eq_ok_iff.mp h
      obtain rfl := pure_eq_ok_iff.mp h
      rfl
  | _ =>
    obtain rfl := Except.ok.inj h
    simp [NamesFile]

lemma elementsLike_cons (element : Value) (rest : List Value) :
    ElementsLike (element :: rest) ↔
      ElementLike element ∧ (¬ NamesFile element → ElementsLike rest) := by
  constructor
  · intro h
    refine ⟨h [] element rest rfl (by simp), fun hno before x after hsplit hbefore => ?_⟩
    refine h (element :: before) x after (by rw [hsplit, List.cons_append]) ?_
    exact List.forall_mem_cons.mpr ⟨hno, hbefore⟩
  · rintro ⟨helement, hrest⟩ before x after hsplit hbefore
    cases before with
    | nil =>
      obtain ⟨rfl, -⟩ := List.cons.inj hsplit
      exact helement
    | cons y before =>
      obtain ⟨rfl, hrest'⟩ := List.cons.inj hsplit
      obtain ⟨hno, hbefore⟩ := List.forall_mem_cons.mp hbefore
      exact hrest hno before x after hrest' hbefore

lemma exists_firstPlace?_iff (elements : List Value) :
    (∃ place?, firstPlace? elements = .ok place?) ↔ ElementsLike elements := by
  induction elements with
  | nil => simp [firstPlace?, ElementsLike]
  | cons element rest ih =>
    rw [elementsLike_cons, ← exists_elementPlace?_iff, ← ih, firstPlace?]
    cases hplace : elementPlace? element with
    | error failure => simp [bind, Except.bind]
    | ok place? =>
      have hnames := isSome_of_elementPlace? hplace
      cases place? with
      | none => simp [bind, Except.bind, ← hnames]
      | some place => simp [bind, Except.bind, ← hnames, pure, Except.pure]

/-! ### Results -/

lemma exists_resultFinding?_iff (result : Value) :
    (∃ found?, resultFinding? result = .ok found?) ↔ ResultLike result := by
  cases result with
  | dict entries =>
    rw [resultFinding?]
    cases himpact : impactSeverity? (fieldOr "impact" "" entries) with
    | none => simp [ResultLike, himpact]
    | some severity =>
      have hplace := itemsOf_then (v := fieldD "elements" entries) (f := firstPlace?) ⟨none, rfl⟩
      simp only [exists_firstPlace?_iff] at hplace
      have hlike : ResultLike (.dict entries) ↔
          ItemsWith ElementsLike (fieldD "elements" entries) := by
        simp [ResultLike, himpact]
      rw [hlike, ← hplace]
      change (∃ found?, (finding severity entries).map some = .ok found?) ↔ _
      unfold finding
      cases itemsOf (fieldD "elements" entries) with
      | error failure => simp [bind, Except.bind, Except.map]
      | ok elements =>
        cases hfirst : firstPlace? elements <;>
          simp [hfirst, bind, Except.bind, Except.map, pure, Except.pure]
  | _ => simp [resultFinding?, ResultLike]

lemma exists_findingsOf_iff (results : List Value) :
    (∃ found, findingsOf results = .ok found) ↔ ∀ x ∈ results, ResultLike x := by
  induction results with
  | nil => simp [findingsOf]
  | cons result rest ih =>
    rw [List.forall_mem_cons, ← exists_resultFinding?_iff, ← ih, findingsOf]
    cases resultFinding? result <;> cases findingsOf rest <;>
      simp [bind, Except.bind, pure, Except.pure]

/-- **Data is read exactly when it has its shape.** -/
lemma exists_parse_iff (payload : List (Value × Value)) :
    (∃ findings, parse payload = .ok findings) ↔ PayloadLike payload := by
  have hdetectors (results : List (Value × Value)) :=
    itemsOf_then (v := fieldD "detectors" results) (f := findingsOf) ⟨[], rfl⟩
  simp only [exists_findingsOf_iff] at hdetectors
  unfold PayloadLike
  simp only [← hdetectors]
  exact mappingOf_then ⟨[], rfl⟩

end LineAudit.AnalyzerPayload
