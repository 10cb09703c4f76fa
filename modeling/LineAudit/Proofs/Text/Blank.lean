import LineAudit.Text.Blank
import Mathlib.Data.List.DropRight
import Mathlib.Tactic.Common

/-!
Texts without the white space at their ends.
-/

namespace LineAudit.Text

/-- White space alone stands before and after what is left of a text. -/
lemma trimBlanks_split (cs : List Char) : ∃ before after,
    cs = before ++ trimBlanks cs ++ after ∧ ∀ c ∈ before ++ after, isBlank c = true := by
  refine ⟨cs.takeWhile isBlank, (dropBlanks cs).rtakeWhile isBlank, ?_, ?_⟩
  · have hend : trimBlanks cs ++ (dropBlanks cs).rtakeWhile isBlank = dropBlanks cs :=
      List.rdropWhile_append_rtakeWhile ..
    rw [List.append_assoc, hend]
    exact List.takeWhile_append_dropWhile.symm
  · intro c hc
    rcases List.mem_append.mp hc with h | h
    · exact List.mem_takeWhile_imp h
    · exact List.mem_rtakeWhile_imp h

/-- Nothing more is left out when white space is left out again. -/
lemma trimBlanks_trimBlanks (cs : List Char) : trimBlanks (trimBlanks cs) = trimBlanks cs := by
  have hstart : dropBlanks (trimBlanks cs) = trimBlanks cs := by
    cases htrim : trimBlanks cs with
    | nil => rfl
    | cons c rest =>
      -- the first character left is the first one after the white space at the start
      have hend : trimBlanks cs ++ (dropBlanks cs).rtakeWhile isBlank = dropBlanks cs :=
        List.rdropWhile_append_rtakeWhile ..
      have hfirst := List.head?_dropWhile_not isBlank cs
      rw [← dropBlanks, ← hend, htrim, List.cons_append, List.head?_cons] at hfirst
      exact List.dropWhile_cons_of_neg (by simpa using hfirst)
  calc trimBlanks (trimBlanks cs) = dropBlanksEnd (trimBlanks cs) := by rw [trimBlanks, hstart]
    _ = trimBlanks cs := List.rdropWhile_idempotent ..

/-- Nothing is left of a text of white space alone, and of no other. -/
lemma strip_isEmpty (s : String) : (strip s).isEmpty = isAllBlank s := by
  have hnil : trimBlanks s.toList = [] ↔ ∀ c ∈ s.toList, isBlank c = true := by
    constructor
    · intro h
      obtain ⟨before, after, hsplit, hblank⟩ := trimBlanks_split s.toList
      rw [h, List.append_nil] at hsplit
      rwa [hsplit]
    · intro h
      have hdrop : dropBlanks s.toList = [] := List.dropWhile_eq_nil_iff.mpr h
      rw [trimBlanks, hdrop]
      rfl
  rw [Bool.eq_iff_iff, String.isEmpty_iff, strip, isAllBlank, List.all_eq_true, ← hnil]
  exact String.ofList_eq_empty_iff

/-! ### Words in a text -/

/-- Characters none of which is white space. -/
def Solid (word : List Char) : Prop := ∀ c ∈ word, isBlank c = false

instance (word : List Char) : Decidable (Solid word) :=
  List.decidableBAll (fun c => isBlank c = false) word

lemma dropBlanks_append {before word : List Char} (hbefore : ∀ c ∈ before, isBlank c = true)
    (hne : word ≠ []) (hword : Solid word) (rest : List Char) :
    dropBlanks (before ++ (word ++ rest)) = word ++ rest := by
  obtain ⟨c, word, rfl⟩ := List.exists_cons_of_ne_nil hne
  have hc : ¬ isBlank c = true := by simp [hword c]
  rw [dropBlanks, List.dropWhile_append_of_pos hbefore, List.cons_append,
    List.dropWhile_cons_of_neg hc]

/-- What is left of a text is a solid word exactly when white space alone stands around this word.
-/
lemma trimBlanks_eq_iff {word : List Char} (hne : word ≠ []) (hword : Solid word)
    (cs : List Char) : trimBlanks cs = word ↔ ∃ before after,
      cs = before ++ word ++ after ∧ ∀ c ∈ before ++ after, isBlank c = true := by
  constructor
  · rintro rfl
    exact trimBlanks_split cs
  · rintro ⟨before, after, rfl, hblank⟩
    have hbefore : ∀ c ∈ before, isBlank c = true :=
      fun c hc => hblank c (List.mem_append_left _ hc)
    have hafter : ∀ c ∈ after.reverse, isBlank c = true :=
      fun c hc => hblank c (List.mem_append_right _ (List.mem_reverse.mp hc))
    have hreverse : Solid word.reverse := fun c hc => hword c (List.mem_reverse.mp hc)
    have hend := dropBlanks_append hafter (by simpa using hne) hreverse []
    rw [List.append_nil] at hend
    rw [trimBlanks, List.append_assoc, dropBlanks_append hbefore hne hword, dropBlanksEnd,
      List.reverse_append, hend, List.reverse_reverse]

/-- A text starts with a solid word after its white space exactly when it does so without the white
space at its ends. -/
lemma prefix_trimBlanks_iff {word : List Char} (hword : Solid word) (cs : List Char) :
    word <+: trimBlanks cs ↔ word <+: dropBlanks cs := by
  have hend : trimBlanks cs ++ (dropBlanks cs).rtakeWhile isBlank = dropBlanks cs :=
    List.rdropWhile_append_rtakeWhile ..
  constructor
  · intro h
    exact h.trans ⟨_, hend⟩
  · intro h
    by_contra hno
    -- the word would go on into the white space at the end
    obtain ⟨rest, rfl⟩ : trimBlanks cs <+: word := by
      refine List.prefix_of_prefix_length_le ⟨_, hend⟩ h ?_
      by_contra hlong
      exact hno (List.prefix_of_prefix_length_le h ⟨_, hend⟩ (by omega))
    rw [← hend, List.prefix_append_right_inj] at h
    cases rest with
    | nil => exact hno (by simp)
    | cons c rest =>
      have hblank := List.mem_rtakeWhile_imp (h.subset (List.mem_cons_self ..))
      have hsolid := hword c (by simp)
      simp [hsolid] at hblank

lemma infix_dropBlanks_iff {word : List Char} (hne : word ≠ []) (hword : Solid word)
    (cs : List Char) : word <:+: dropBlanks cs ↔ word <:+: cs := by
  induction cs with
  | nil => rfl
  | cons c rest ih =>
    by_cases hc : isBlank c = true
    · rw [dropBlanks, List.dropWhile_cons_of_pos hc, ← dropBlanks, ih, List.infix_cons_iff]
      refine (or_iff_right fun hprefix => ?_).symm
      cases word with
      | nil => exact hne rfl
      | cons d word =>
        obtain ⟨rfl, -⟩ := List.cons_prefix_cons.mp hprefix
        have hsolid := hword d (by simp)
        simp [hsolid] at hc
    · rw [dropBlanks, List.dropWhile_cons_of_neg hc]

/-- A solid word occurs in a text exactly when it does so without the white space at its ends. -/
lemma infix_trimBlanks_iff {word : List Char} (hne : word ≠ []) (hword : Solid word)
    (cs : List Char) : word <:+: trimBlanks cs ↔ word <:+: cs := by
  have hreverse : Solid word.reverse := fun c hc => hword c (List.mem_reverse.mp hc)
  rw [trimBlanks, dropBlanksEnd, ← List.reverse_infix, List.reverse_reverse,
    infix_dropBlanks_iff (by simpa using hne) hreverse, List.reverse_infix,
    infix_dropBlanks_iff hne hword]

end LineAudit.Text
