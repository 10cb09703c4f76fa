import LineAudit.Proofs.Matcher.Grammar

/-!
What specifications of the grammar are built into.

Main result: a specification of the grammar is built into a matcher that mirrors it node by node and
is usable.
-/

namespace LineAudit

namespace Spec

/-- A matcher has the kind, the text and the children that a specification says, and so on for each
of the children in order. -/
inductive Mirrors : Value → Matcher → Prop
  | text (s : String) : Mirrors (.str s) (.literal 0 (.str s))
  | literal {entries : List (Value × Value)} {v : Value}
      (hv : Value.field? "literal" entries = some v) : Mirrors (.dict entries) (.literal 0 v)
  | regex {entries : List (Value × Value)} {r : Regex}
      (hp : Value.field? "regex" entries = some r.pattern)
      (hi : r.ignoreCase = ignoresCase entries) : Mirrors (.dict entries) (.regex 0 r)
  | joint (joint : Joint) {entries : List (Value × Value)} {items : List Value}
      {children : List Matcher} (hitems : Value.field? joint.key entries = some (.list items))
      (h : List.Forall₂ Mirrors items children) : Mirrors (.dict entries) (join joint children)

lemma usable_join {children : List Matcher} (joint : Joint) (hne : children ≠ [])
    (h : ∀ m ∈ children, m.Usable) : (join joint children).Usable := by
  cases joint with
  | any => exact .any 0 hne h
  | all => exact .all 0 hne h

/-! ### Building a mapping -/

lemma buildEntry_eq {joint : Joint} {entries : List (Value × Value)} {v : Value}
    (h : Value.field? joint.key entries = some v) : buildEntry joint entries = buildChildren v :=
  Value.eq_of_find? (fun k w rest => by rw [buildEntry]) h

lemma buildAll_eq_ok_iff {items : List Value} {ms : List Matcher} :
    buildAll items = .ok ms ↔ List.Forall₂ (fun item m => build item = .ok m) items ms := by
  rw [← mapM_eq_ok_iff]
  suffices buildAll items = items.mapM build by rw [this]
  induction items with
  | nil => rw [buildAll, List.mapM_nil]; rfl
  | cons item rest ih => rw [buildAll, List.mapM_cons, ih]

lemma joint?_of_onlyKey {joint : Joint} {entries : List (Value × Value)}
    (h : OnlyKey joint.key entries) : joint? entries = some joint := by
  rw [joint?, h.isSome (by decide), h.isSome (by decide)]
  cases joint <;> decide

lemma joint?_eq_none {key : String} {entries : List (Value × Value)} (h : OnlyKey key entries)
    (hany : key ≠ "any") (hall : key ≠ "all") : joint? entries = none := by
  rw [joint?, h.isSome (by decide), h.isSome (by decide)]
  simp [hany.symm, hall.symm]

/-! ### Building a specification -/

/-- **A specification of the grammar is built into a usable matcher that mirrors it.** -/
theorem WellFormed.builds {v : Value} (h : WellFormed v) :
    ∃ m, build v = .ok m ∧ Mirrors v m ∧ m.Usable := by
  induction h with
  | @text s h => exact ⟨.literal 0 (.str s), by rw [build], .text s, .literal 0 h⟩
  | @literal entries s hkey hs hne =>
    refine ⟨.literal 0 (.str s), ?_, .literal hs, .literal 0 hne⟩
    simp [build, joint?_eq_none hkey, buildLeaf, hs]
  | @regex entries s hkey hs hne hc =>
    obtain ⟨program, hprogram⟩ := hc
    obtain ⟨r, hmake, hr⟩ := Regex.make_of_compiles hne hprogram
    obtain ⟨hp, hi⟩ := Regex.make_eq_ok_iff.mp hmake
    have hliteral : Value.field? "literal" entries = none := by
      simpa using hkey.isSome (k := "literal") (by decide)
    refine ⟨.regex 0 r, ?_, .regex (hp ▸ hs) hi, .regex 0 hr⟩
    simp [build, joint?_eq_none hkey, buildLeaf, hliteral, hs, buildRegex, hmake]
  | joint joint hkey hitems hne _ ih =>
    obtain ⟨children, hchildren⟩ := exists_forall₂ ih
    have hbuild := buildAll_eq_ok_iff.mpr (hchildren.imp fun _ _ h => h.1)
    refine ⟨join joint children, ?_, .joint joint hitems (hchildren.imp fun _ _ h => h.2.1), ?_⟩
    · simp [build, joint?_of_onlyKey hkey, buildEntry_eq hitems, buildChildren, hbuild]
    · refine usable_join joint (fun hnil => hne ?_) ?_
      · simpa [hnil] using hchildren.length_eq
      · exact forall_right_of_forall₂ hchildren fun _ _ h => h.2.2

end Spec

end LineAudit
