import LineAudit.Matcher.Regex
import LineAudit.Proofs.Pattern.Search
import LineAudit.Proofs.Text.Blank

/-!
The pattern by which the bundled rules leave out comment lines.

Main result: it is found in the lines that start with the mark of a comment, white space aside.
-/

namespace LineAudit.Pack

/-- The marks with which comment lines start. -/
def commentMarks : List String := ["//", "/*", "*"]

/-- A text starts with the mark of a comment. -/
def StartsComment (s : String) : Prop := ∃ mark ∈ commentMarks, mark.toList <+: s.toList

instance (s : String) : Decidable (StartsComment s) :=
  inferInstanceAs (Decidable (∃ mark ∈ commentMarks, mark.toList <+: s.toList))

/-- The pattern for comment lines. -/
def commentPattern : String := "^\\s*(//|/\\*|\\*)"

/-- The pattern for comment lines, ready for a search. -/
def commentProgram : Pattern.Compiled where
  body := [.place .start, .repeated .greedy 0 none [.set false [.category false .space]],
    .group (some 1) [] [] [.branch [[.literal 47, .literal 47], [.literal 47, .literal 42],
      [.literal 42]]]]
  flags := [.unicode]
  lead? := none

open Pattern

/-- Whether reading gave the pattern for comment lines. Patterns cannot be compared, but they can be
taken apart. -/
def isCommentProgram : Except Refusal Compiled → Bool
  | .ok ⟨[.place .start, .repeated .greedy 0 none [.set false [.category false .space]],
      .group (some 1) [] [] [.branch [[.literal 47, .literal 47], [.literal 47, .literal 42],
        [.literal 42]]]], [.unicode], none⟩ => true
  | _ => false

lemma compile_commentPattern : Pattern.compile commentPattern false = .ok commentProgram := by
  have hread : isCommentProgram (Pattern.compile commentPattern false) = true := by decide +kernel
  unfold isCommentProgram at hread
  split at hread
  next h => exact h
  next => cases hread

/-- The marks as characters. -/
def markWords : List (List Char) := commentMarks.map String.toList

lemma startsComment_iff (s : String) :
    StartsComment s ↔ ∃ word ∈ markWords, word <+: s.toList := by
  simp [StartsComment, markWords]

lemma markWords_solid : ∀ word ∈ markWords, word ≠ [] ∧ Text.Solid word := by decide

/-- A mark stands after white space exactly when a text without the white space at its ends starts
with it. -/
lemma after_blanks_iff (cs : List Char) :
    After (fun n => Text.isBlank (Char.ofNat n))
        (fun rest => ∃ word ∈ markWords, word <+: rest) cs ↔
      ∃ word ∈ markWords, word <+: Text.trimBlanks cs := by
  constructor
  · rintro ⟨passed, rest, rfl, hpassed, word, hword, hprefix⟩
    obtain ⟨hne, hsolid⟩ := markWords_solid word hword
    have hblank : ∀ c ∈ passed, Text.isBlank c = true := by simpa using hpassed
    have hdrop : Text.dropBlanks (passed ++ rest) = rest := by
      obtain ⟨later, rfl⟩ := hprefix
      exact Text.dropBlanks_append hblank hne hsolid later
    refine ⟨word, hword, (Text.prefix_trimBlanks_iff hsolid _).mpr ?_⟩
    rwa [hdrop]
  · rintro ⟨word, hword, hprefix⟩
    refine ⟨cs.takeWhile Text.isBlank, Text.dropBlanks cs, ?_, fun c hc => ?_, word, hword, ?_⟩
    · exact List.takeWhile_append_dropWhile.symm
    · simpa using List.mem_takeWhile_imp hc
    · exact (Text.prefix_trimBlanks_iff (markWords_solid word hword).2 cs).mp hprefix

/-- The group of the pattern finds the marks. -/
lemma marks_found_iff (t : Trail) :
    (matchAll [.group (some 1) [] [] [.branch [[.literal 47, .literal 47],
      [.literal 47, .literal 42], [.literal 42]]]] [.unicode] t some).isSome ↔
        ∃ word ∈ markWords, word <+: t.spot.ahead := by
  have hwords : [[.literal 47, .literal 47], [.literal 47, .literal 42], [.literal 42]] =
      markWords.map fun word => word.map fun c => Node.literal c.toNat := by
    simp [markWords, commentMarks]
  have hfree : Goal.Free fun t => matchAll [] [.unicode] (t.leave (some 1)) some := by
    intro t
    simp [matchAll]
  have hcase : ([.unicode] : Flags).contains .ignoreCase = false := by decide
  have hfound := words_found_iff hcase hfree markWords (t.enter (some 1))
  rw [← hwords] at hfound
  exact hfound

/-- **The pattern is found in comment lines.** -/
lemma commentProgram_search_iff (line : String) :
    commentProgram.search line = true ↔ StartsComment (Text.strip line) := by
  have hblank : admitsSet [.unicode] false [.category false .space] =
      fun n => Text.isBlank (Char.ofNat n) := by
    funext n
    simp [admitsSet, folding?, Item.has, Category.has]
  have hspace : matchAll [.set false [.category false .space]] [.unicode] =
      fun t k => t.step (fun n => Text.isBlank (Char.ofNat n)) k := by
    funext t k
    simp [matchAll, matchNode, hblank]
  have hfound := repeated_found_iff (P := fun rest => ∃ word ∈ markWords, word <+: rest) hspace
    marks_found_iff (.begin (.start line.toList))
  rw [commentProgram, search_of_start (by decide), matchAll, hfound, startsComment_iff, Text.strip,
    String.toList_ofList]
  exact after_blanks_iff line.toList

end LineAudit.Pack
