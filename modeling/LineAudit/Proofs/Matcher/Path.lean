import LineAudit.Matcher.Complaint
import LineAudit.Proofs.Lists

/-!
Ways to nodes in words.

A step is told as `.any[3]` or `.all[3]`, and a way as its steps in a row. Main result: a way can be
told from its words, also when words without a bracket follow.
-/

namespace LineAudit

lemma Joint.key_injective : Function.Injective Joint.key := by
  intro x y h
  cases x <;> cases y <;> simp_all [Joint.key]

lemma Joint.bracket_not_mem_key (joint : Joint) : '[' ∉ joint.key.toList := by
  cases joint <;> decide

lemma toDigits_injective {m n : ℕ} (h : Nat.toDigits 10 m = Nat.toDigits 10 n) : m = n := by
  calc m = Nat.ofDigitChars 10 (Nat.toDigits 10 m) 0 := Nat.ofDigitChars_ten_toDigits.symm
    _ = Nat.ofDigitChars 10 (Nat.toDigits 10 n) 0 := by rw [h]
    _ = n := Nat.ofDigitChars_ten_toDigits

namespace NodeStep

lemma toList_text (step : NodeStep) :
    step.text.toList =
      ('.' :: step.joint.key.toList) ++ '[' :: (Nat.toDigits 10 step.index ++ [']']) := by
  simp [text, ToString.toString, Nat.toList_repr]

lemma bracket_mem_text (step : NodeStep) : '[' ∈ step.text.toList := by
  simp [toList_text]

/-- A step can be told from its words, whatever follows. -/
lemma text_append_inj {x y : NodeStep} {as bs : List Char}
    (h : x.text.toList ++ as = y.text.toList ++ bs) : x = y ∧ as = bs := by
  simp only [toList_text, List.append_assoc, List.cons_append, List.nil_append] at h
  obtain ⟨hkey, hrest⟩ := append_cons_inj_of_first (List.cons.inj h).2
    x.joint.bracket_not_mem_key y.joint.bracket_not_mem_key
  obtain ⟨hindex, hsame⟩ := append_cons_inj_of_first hrest
    (not_mem_toDigits rfl _) (not_mem_toDigits rfl _)
  have hjoint := Joint.key_injective (String.toList_injective hkey)
  obtain ⟨joint, index⟩ := x
  obtain ⟨joint', index'⟩ := y
  obtain rfl : joint = joint' := hjoint
  obtain rfl : index = index' := toDigits_injective hindex
  exact ⟨rfl, hsame⟩

end NodeStep

namespace NodePath

lemma toList_text (root : String) (path : NodePath) :
    (text root path).toList = root.toList ++ path.flatMap fun step => step.text.toList := by
  simp [text, String.toList_join, List.flatMap_def, Function.comp_def]

lemma steps_append_inj {p q : NodePath} {as bs : List Char} (has : '[' ∉ as) (hbs : '[' ∉ bs)
    (h : p.flatMap (fun step => step.text.toList) ++ as =
      q.flatMap (fun step => step.text.toList) ++ bs) : p = q ∧ as = bs := by
  induction p generalizing q with
  | nil =>
    cases q with
    | nil => exact ⟨rfl, h⟩
    | cons y q =>
      refine absurd ?_ has
      rw [List.flatMap_nil, List.nil_append] at h
      rw [h]
      simp [y.bracket_mem_text]
  | cons x p ih =>
    cases q with
    | nil =>
      refine absurd ?_ hbs
      rw [List.flatMap_nil, List.nil_append] at h
      rw [← h]
      simp [x.bracket_mem_text]
    | cons y q =>
      rw [List.flatMap_cons, List.flatMap_cons, List.append_assoc, List.append_assoc] at h
      obtain ⟨rfl, hrest⟩ := NodeStep.text_append_inj h
      obtain ⟨rfl, hsame⟩ := ih hrest
      exact ⟨rfl, hsame⟩

/-- **Words without a bracket leave the way before them to be told.** -/
theorem text_append_inj {root s t : String} {p q : NodePath} (hs : '[' ∉ s.toList)
    (ht : '[' ∉ t.toList) (h : text root p ++ s = text root q ++ t) : p = q ∧ s = t := by
  have hchars := congrArg String.toList h
  rw [String.toList_append, String.toList_append, toList_text, toList_text, List.append_assoc,
    List.append_assoc] at hchars
  obtain ⟨hpath, hwords⟩ := steps_append_inj hs ht (List.append_cancel_left hchars)
  exact ⟨hpath, String.toList_injective hwords⟩

lemma text_injective (root : String) : Function.Injective (text root) := by
  intro p q h
  have hwords : text root p ++ "" = text root q ++ "" := by rw [h]
  exact (text_append_inj (by simp) (by simp) hwords).1

end NodePath

end LineAudit
