import LineAudit.Proofs.Text.Blank
import Mathlib.Data.List.Chain

/-!
Texts with single spaces.

The words of a text are its characters without the white space. Main statement: the words joined by
spaces have white space nowhere but for one space between two words.
-/

namespace LineAudit.Text

/-- The only white space in a text are single spaces, and it does not start with one. -/
structure SingleSpaced (cs : List Char) : Prop where
  spaces : ∀ c ∈ cs, isBlank c = true → c = ' '
  start : cs.head? ≠ some ' '
  apart : cs.IsChain fun a b => ¬ (a = ' ' ∧ b = ' ')

lemma SingleSpaced.of_isPrefix {cs ds : List Char} (h : SingleSpaced ds) (hstart : cs <+: ds) :
    SingleSpaced cs where
  spaces := fun c hc => h.spaces c (hstart.subset hc)
  start := by
    cases cs with
    | nil => simp
    | cons c rest =>
      obtain ⟨after, rfl⟩ := hstart
      exact h.start
  apart := h.apart.prefix hstart

lemma Solid.ne_space {word : List Char} (h : Solid word) : ∀ c ∈ word, c ≠ ' ' := by
  rintro c hc rfl
  exact Bool.false_ne_true ((h ' ' hc).symm.trans (by decide))

lemma Solid.singleSpaced {word : List Char} (h : Solid word) : SingleSpaced word where
  spaces := fun c hc hblank => by simp [h c hc] at hblank
  start := fun hfirst => h.ne_space ' ' (List.mem_of_head? hfirst) rfl
  apart := by
    refine List.Pairwise.isChain (List.pairwise_of_forall_mem_list fun a ha b _ => ?_)
    exact fun hspace => h.ne_space a ha hspace.1

/-- A word, a space and a text with single spaces make a text with single spaces. -/
lemma Solid.singleSpaced_append {word cs : List Char} (h : Solid word) (hne : word ≠ [])
    (hcs : SingleSpaced cs) : SingleSpaced (word ++ ' ' :: cs) where
  spaces := by
    intro c hc hblank
    rcases List.mem_append.mp hc with hc | hc
    · exact h.singleSpaced.spaces c hc hblank
    · rcases List.mem_cons.mp hc with rfl | hc
      · rfl
      · exact hcs.spaces c hc hblank
  start := by
    rw [List.head?_append_of_ne_nil _ hne]
    exact h.singleSpaced.start
  apart := by
    rw [List.isChain_append]
    refine ⟨h.singleSpaced.apart, ?_, fun a ha b hb hspace => ?_⟩
    · rw [List.isChain_cons]
      exact ⟨fun b hb hspace => hcs.start (hspace.2 ▸ hb), hcs.apart⟩
    · exact h.ne_space a (List.mem_of_getLast? ha) hspace.1

lemma singleSpaced_intercalate {ws : List (List Char)} (h : ∀ w ∈ ws, w ≠ [] ∧ Solid w) :
    SingleSpaced ([' '].intercalate ws) := by
  induction ws with
  | nil => exact ⟨by simp, by simp, .nil⟩
  | cons w rest ih =>
    obtain ⟨⟨hne, hsolid⟩, hrest⟩ := List.forall_mem_cons.mp h
    cases rest with
    | nil =>
      rw [List.intercalate_singleton]
      exact hsolid.singleSpaced
    | cons next rest =>
      rw [List.intercalate_cons_cons, List.append_assoc]
      exact hsolid.singleSpaced_append hne (ih hrest)

/-- The words of a text are characters without white space, of which there are some. -/
lemma solid_of_mem_wordsFrom {word : List Char} (hword : Solid word) (cs : List Char) :
    ∀ w ∈ wordsFrom word cs, w ≠ [] ∧ Solid w := by
  have hdone {word : List Char} (hword : Solid word) (hne : ¬ word.isEmpty = true) :
      word.reverse ≠ [] ∧ Solid word.reverse :=
    ⟨by simpa using hne, fun c hc => hword c (List.mem_reverse.mp hc)⟩
  induction cs generalizing word with
  | nil =>
    intro w hw
    unfold wordsFrom at hw
    split at hw
    next => simp at hw
    next hne => exact List.mem_singleton.mp hw ▸ hdone hword hne
  | cons c rest ih =>
    intro w hw
    have hnil : Solid [] := List.forall_mem_nil _
    rw [wordsFrom] at hw
    split at hw
    next =>
      split at hw
      next => exact ih hnil w hw
      next hne =>
        rcases List.mem_cons.mp hw with rfl | hw
        · exact hdone hword hne
        · exact ih hnil w hw
    next hblank => exact ih (List.forall_mem_cons.mpr ⟨by simpa using hblank, hword⟩) w hw

/-- **A text without superfluous white space has single spaces alone.** -/
lemma singleSpaced_collapseBlanks (s : String) : SingleSpaced (collapseBlanks s).toList := by
  have hchars : (collapseBlanks s).toList = [' '].intercalate (wordsFrom [] s.toList) := by
    simp [collapseBlanks, words, String.toList_intercalate, Function.comp_def]
  rw [hchars]
  exact singleSpaced_intercalate (solid_of_mem_wordsFrom (List.forall_mem_nil _) s.toList)

end LineAudit.Text
