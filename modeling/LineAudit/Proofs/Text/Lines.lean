import LineAudit.File.Source
import Mathlib.Data.List.Chain
import Mathlib.Data.List.DropRight
import Mathlib.Data.Nat.Notation
import Mathlib.Tactic.Common

/-!
Texts and their lines.

Every text is a row of lines with their ends, and a last stretch without an end; a carriage return
in it is never followed by what would make it the first half of a longer end. The lines of the text
are the lines of the row, and the last stretch unless it is empty. Main result: what is known of the
lines of a text, read off this form.
-/

namespace LineAudit

namespace Text

/-- A character that ends a line. -/
def isLineEnd (c : Char) : Bool := c = '\r' || c = '\n'

/-- The ways to end a line. -/
inductive LineEnd
  | lf
  | crLf
  | cr
  deriving DecidableEq

def LineEnd.chars : LineEnd → List Char
  | lf => ['\n']
  | crLf => ['\r', '\n']
  | cr => ['\r']

/-- Characters none of which ends a line. -/
def OneLine (cs : List Char) : Prop := ∀ c ∈ cs, isLineEnd c = false

instance (cs : List Char) : Decidable (OneLine cs) :=
  List.decidableBAll (fun c => isLineEnd c = false) cs

/-- A line with its end. -/
structure EndedLine where
  line : String
  ending : LineEnd
  oneLine : OneLine line.toList

namespace EndedLine

def ofChars (line : List Char) (ending : LineEnd) (h : OneLine line) : EndedLine :=
  ⟨String.ofList line, ending, by rwa [String.toList_ofList]⟩

def chars (r : EndedLine) : List Char := r.line.toList ++ r.ending.chars

lemma chars_ofChars (line : List Char) (ending : LineEnd) (h : OneLine line) :
    (ofChars line ending h).chars = line ++ ending.chars := by
  rw [chars, ofChars, String.toList_ofList]

/-- The end of a line and the line after it do not look like one end. -/
def KeptApart (a b : EndedLine) : Prop := ¬ (a.ending = .cr ∧ b.line = "" ∧ b.ending = .lf)

instance (a b : EndedLine) : Decidable (KeptApart a b) := inferInstanceAs (Decidable (¬ _))

/-- Only an empty line with a line feed starts with a line feed. -/
lemma head?_chars_append (r : EndedLine) (rest : List Char) :
    (r.chars ++ rest).head? = some '\n' ↔ r.line = "" ∧ r.ending = .lf := by
  obtain ⟨line, ending, hone⟩ := r
  rw [← String.toList_eq_nil_iff]
  simp only [chars]
  cases hline : line.toList with
  | nil => cases ending <;> simp [LineEnd.chars]
  | cons c cs =>
    have hc : isLineEnd c = false := hone c (by simp [hline])
    simp only [List.cons_append, List.head?_cons, Option.some.injEq, reduceCtorEq, false_and,
      iff_false]
    rintro rfl
    simp [isLineEnd] at hc

end EndedLine

/-- Lines with their ends, one after the other. -/
def written (rows : List EndedLine) : List Char := rows.flatMap EndedLine.chars

/-- The text in which a carriage return and a line feed in this order are a line feed alone. -/
def mergePairs : List Char → List Char
  | [] => []
  | '\r' :: '\n' :: rest => '\n' :: mergePairs rest
  | c :: rest => c :: mergePairs rest

/-- The number of line ends in a text. A carriage return and a line feed in this order are one. -/
def countLineEnds : List Char → ℕ
  | [] => 0
  | '\r' :: '\n' :: rest => countLineEnds rest + 1
  | c :: rest => countLineEnds rest + if isLineEnd c then 1 else 0

/-! ### The form of a text -/

/-- A text is a row of lines, with their ends kept apart, and a last stretch. -/
structure Splits (cs : List Char) (rows : List EndedLine) (last : List Char) : Prop where
  apart : rows.IsChain EndedLine.KeptApart
  lastOneLine : OneLine last
  eq : cs = written rows ++ last

lemma Splits.cons {rest last : List Char} {rows : List EndedLine} (h : Splits rest rows last)
    (r : EndedLine) (hsep : r.ending = .cr → rest.head? ≠ some '\n') :
    Splits (r.chars ++ rest) (r :: rows) last where
  apart := by
    refine List.isChain_cons.mpr ⟨?_, h.apart⟩
    rintro b hb ⟨hcr, hlf⟩
    obtain ⟨later, rfl⟩ := List.head?_eq_some_iff.mp hb
    refine hsep hcr ?_
    rw [h.eq, written, List.flatMap_cons, List.append_assoc]
    exact (b.head?_chars_append _).mpr hlf
  lastOneLine := h.lastOneLine
  eq := by rw [h.eq, written, written, List.flatMap_cons, List.append_assoc]

lemma exists_splits_from (line cs : List Char) (hline : OneLine line) :
    ∃ rows last, Splits (line.reverse ++ cs) rows last := by
  have hreverse (line : List Char) (h : OneLine line) : OneLine line.reverse :=
    fun c hc => h c (List.mem_reverse.mp hc)
  have hnil : OneLine [] := by simp [OneLine]
  fun_induction piecesFrom line cs with
  | case1 line => exact ⟨[], _, .nil, hreverse line hline, by simp [written]⟩
  | case2 line rest ih =>
    obtain ⟨rows, last, h⟩ := ih hnil
    have hr := h.cons (.ofChars _ .crLf (hreverse line hline)) (by simp [EndedLine.ofChars])
    rw [EndedLine.chars_ofChars, List.append_assoc] at hr
    exact ⟨_, _, hr⟩
  | case3 line rest hno ih =>
    obtain ⟨rows, last, h⟩ := ih hnil
    have hr := h.cons (.ofChars _ .cr (hreverse line hline)) fun _ hhead => by
      obtain ⟨later, hlater⟩ := List.head?_eq_some_iff.mp hhead
      exact hno later hlater
    rw [EndedLine.chars_ofChars, List.append_assoc] at hr
    exact ⟨_, _, hr⟩
  | case4 line rest ih =>
    obtain ⟨rows, last, h⟩ := ih hnil
    have hr := h.cons (.ofChars _ .lf (hreverse line hline)) (by simp [EndedLine.ofChars])
    rw [EndedLine.chars_ofChars, List.append_assoc] at hr
    exact ⟨_, _, hr⟩
  | case5 line c rest hcrLf hcr hlf ih =>
    have hc : isLineEnd c = false := by simpa [isLineEnd] using ⟨hcr, hlf⟩
    obtain ⟨rows, last, h⟩ := ih (List.forall_mem_cons.mpr ⟨hc, hline⟩)
    rw [List.reverse_cons, List.append_assoc] at h
    exact ⟨rows, last, h⟩

/-- **Every text is a row of lines and a last stretch.** -/
lemma exists_splits (cs : List Char) : ∃ rows last, Splits cs rows last :=
  exists_splits_from [] cs (by simp [OneLine])

/-! ### The lines of a text -/

lemma piecesFrom_cons {c : Char} (hc : isLineEnd c = false) (line rest : List Char) :
    piecesFrom line (c :: rest) = piecesFrom (c :: line) rest := by
  simp only [isLineEnd, Bool.or_eq_false_iff, decide_eq_false_iff_not] at hc
  rw [piecesFrom]
  · exact fun _ h => absurd h hc.1
  · exact hc.1
  · exact hc.2

lemma piecesFrom_oneLine {word : List Char} (hword : OneLine word) (line rest : List Char) :
    piecesFrom line (word ++ rest) = piecesFrom (word.reverse ++ line) rest := by
  induction word generalizing line with
  | nil => rfl
  | cons c word ih =>
    obtain ⟨hc, hword⟩ := List.forall_mem_cons.mp hword
    rw [List.cons_append, piecesFrom_cons hc, ih hword, List.reverse_cons, List.append_assoc]
    rfl

lemma piecesFrom_chars (ending : LineEnd) (line : List Char) {rest : List Char}
    (hsep : ending = .cr → rest.head? ≠ some '\n') :
    piecesFrom line (ending.chars ++ rest) = line.reverse :: piecesFrom [] rest := by
  cases ending with
  | lf => rfl
  | crLf => rfl
  | cr =>
    rw [LineEnd.chars, List.singleton_append, piecesFrom]
    rintro later rfl
    exact hsep rfl rfl

/-- A line end of the row stays apart from what follows it. -/
lemma head?_written_ne {r : EndedLine} {rows : List EndedLine} {rest : List Char}
    (h : (r :: rows).IsChain EndedLine.KeptApart) (hcr : r.ending = .cr)
    (hrest : rest.head? ≠ some '\n') : (written rows ++ rest).head? ≠ some '\n' := by
  cases rows with
  | nil => exact hrest
  | cons b later =>
    rw [written, List.flatMap_cons, List.append_assoc, ne_eq, b.head?_chars_append]
    exact fun hlf => (List.isChain_cons_cons.mp h).1 ⟨hcr, hlf⟩

/-- **The pieces of a row of lines are the lines**, whatever follows but a line feed. -/
lemma piecesFrom_written {rows : List EndedLine} {rest : List Char}
    (h : rows.IsChain EndedLine.KeptApart) (hrest : rest.head? ≠ some '\n') :
    piecesFrom [] (written rows ++ rest) =
      rows.map (fun r => r.line.toList) ++ piecesFrom [] rest := by
  induction rows with
  | nil => rfl
  | cons r rows ih =>
    have hsep : r.ending = .cr → (written rows ++ rest).head? ≠ some '\n' :=
      fun hcr => head?_written_ne h hcr hrest
    calc piecesFrom [] (written (r :: rows) ++ rest)
        = piecesFrom [] (r.line.toList ++ (r.ending.chars ++ (written rows ++ rest))) := by
          simp only [written, List.flatMap_cons, EndedLine.chars, List.append_assoc]
      _ = r.line.toList :: piecesFrom [] (written rows ++ rest) := by
          rw [piecesFrom_oneLine r.oneLine, piecesFrom_chars r.ending _ hsep, List.append_nil,
            List.reverse_reverse]
      _ = _ := by rw [ih h.tail, List.map_cons, List.cons_append]

lemma dropEmptyLast_append (pieces : List (List Char)) {rest : List (List Char)}
    (hrest : rest ≠ []) : dropEmptyLast (pieces ++ rest) = pieces ++ dropEmptyLast rest := by
  induction pieces with
  | nil => rfl
  | cons piece pieces ih =>
    rw [List.cons_append, dropEmptyLast, ih, List.cons_append]
    simp [hrest]

lemma head?_ne_of_oneLine {cs : List Char} (h : OneLine cs) : cs.head? ≠ some '\n' := by
  intro hhead
  obtain ⟨rest, rfl⟩ := List.head?_eq_some_iff.mp hhead
  have := h '\n' (by simp)
  simp [isLineEnd] at this

lemma Splits.pieces_eq {cs last : List Char} {rows : List EndedLine} (h : Splits cs rows last) :
    piecesFrom [] cs = rows.map (fun r => r.line.toList) ++ [last] := by
  have hlast : piecesFrom [] last = [last] := by
    have hword := piecesFrom_oneLine h.lastOneLine [] []
    simpa [piecesFrom] using hword
  rw [h.eq, piecesFrom_written h.apart (head?_ne_of_oneLine h.lastOneLine), hlast]

/-- **The lines of a text are those of its row, and the last stretch unless it is empty.** -/
lemma Splits.lines_eq {cs last : List Char} {rows : List EndedLine} (h : Splits cs rows last) :
    lines (String.ofList cs) =
      rows.map EndedLine.line ++ if last = [] then [] else [String.ofList last] := by
  rw [lines, String.toList_ofList, h.pieces_eq, dropEmptyLast_append _ (List.cons_ne_nil _ _),
    List.map_append, List.map_map]
  congr 1
  · exact List.map_congr_left fun r _ => String.ofList_toList
  · cases last <;> simp [dropEmptyLast]

/-! ### Line ends -/

lemma piecesFrom_unifyLineEnds (line cs : List Char) :
    piecesFrom line (unifyLineEnds cs) = piecesFrom line cs := by
  fun_induction piecesFrom line cs with
  | case1 line => rfl
  | case2 line rest ih => rw [unifyLineEnds, piecesFrom, ih]
  | case3 line rest hno ih =>
    rw [unifyLineEnds, piecesFrom, ih]
    exact hno
  | case4 line rest ih => rw [unifyLineEnds, piecesFrom, ih] <;> simp
  | case5 line c rest hcrLf hcr hlf ih =>
    have hc : isLineEnd c = false := by simpa [isLineEnd] using ⟨hcr, hlf⟩
    rw [unifyLineEnds, piecesFrom_cons hc, ih]
    · exact hcrLf
    · exact hcr

lemma lines_unifyLineEnds (s : String) :
    lines (String.ofList (unifyLineEnds s.toList)) = lines s := by
  rw [lines, lines, String.toList_ofList, piecesFrom_unifyLineEnds]

/-- Line ends are made line feeds pair by pair first, and then one by one. -/
lemma unifyLineEnds_eq (cs : List Char) :
    unifyLineEnds cs = (mergePairs cs).map fun c => if c = '\r' then '\n' else c := by
  fun_induction mergePairs cs with
  | case1 => rfl
  | case2 rest ih => simp [unifyLineEnds, ih]
  | case3 c rest hno ih =>
    by_cases hc : c = '\r'
    · subst hc
      rw [unifyLineEnds, ih, List.map_cons, if_pos rfl]
      rintro later rfl
      exact hno later rfl rfl
    · rw [unifyLineEnds, ih, List.map_cons, if_neg hc]
      · exact fun _ h => absurd h hc
      · exact hc

lemma length_piecesFrom (line cs : List Char) :
    (piecesFrom line cs).length = countLineEnds cs + 1 := by
  fun_induction piecesFrom line cs with
  | case1 line => rfl
  | case2 line rest ih => rw [List.length_cons, ih, countLineEnds]
  | case3 line rest hno ih =>
    rw [List.length_cons, ih, countLineEnds]
    · rfl
    · exact fun later _ h => hno later h
  | case4 line rest ih => rw [List.length_cons, ih, countLineEnds] <;> simp [isLineEnd]
  | case5 line c rest hcrLf hcr hlf ih =>
    have hc : isLineEnd c = false := by simpa [isLineEnd] using ⟨hcr, hlf⟩
    rw [ih, countLineEnds, hc]
    · rfl
    · exact hcrLf

lemma LineEnd.isLineEnd_of_mem_chars (ending : LineEnd) : ∀ c ∈ ending.chars, isLineEnd c := by
  cases ending <;> simp [LineEnd.chars, isLineEnd]

/-- What a row of lines ends with ends a line. -/
lemma isLineEnd_of_getLast?_written {rows : List EndedLine} {c : Char}
    (h : (written rows).getLast? = some c) : isLineEnd c := by
  rcases List.eq_nil_or_concat rows with rfl | ⟨before, r, rfl⟩
  · simp [written] at h
  · have hchars : r.ending.chars ≠ [] := by cases r.ending <;> simp [LineEnd.chars]
    rw [List.concat_eq_append, written, List.flatMap_append, List.flatMap_singleton,
      EndedLine.chars, ← List.append_assoc, List.getLast?_append_of_ne_nil _ hchars] at h
    exact r.ending.isLineEnd_of_mem_chars c (List.mem_of_getLast? h)

namespace Splits

variable {cs last : List Char} {rows : List EndedLine}

lemma length_rows (h : Splits cs rows last) : rows.length = countLineEnds cs := by
  have hlength := length_piecesFrom [] cs
  rw [h.pieces_eq, List.length_append, List.length_map, List.length_singleton] at hlength
  omega

/-- There is a last stretch when the last character of a text ends no line. -/
lemma last_ne_nil_iff (h : Splits cs rows last) :
    (cs.getLast?.any fun c => !isLineEnd c) = true ↔ last ≠ [] := by
  rw [Option.any_eq_true]
  constructor
  · rintro ⟨c, hc, hno⟩ rfl
    rw [h.eq, List.append_nil] at hc
    simp [isLineEnd_of_getLast?_written hc] at hno
  · intro hne
    refine ⟨last.getLast hne, ?_, ?_⟩
    · rw [h.eq, List.getLast?_append_of_ne_nil _ hne, List.getLast?_eq_some_getLast hne]
    · simp [h.lastOneLine _ (List.getLast_mem hne)]

lemma filter_eq (h : Splits cs rows last) :
    cs.filter (fun c => !isLineEnd c) = rows.flatMap (fun r => r.line.toList) ++ last := by
  have hkept {word : List Char} (hword : OneLine word) :
      word.filter (fun c => !isLineEnd c) = word :=
    List.filter_eq_self.mpr fun c hc => by simp [hword c hc]
  have hdropped (ending : LineEnd) : ending.chars.filter (fun c => !isLineEnd c) = [] := by
    cases ending <;> decide
  rw [h.eq, List.filter_append, hkept h.lastOneLine, written, List.filter_flatMap]
  congr 2
  funext r
  rw [EndedLine.chars, List.filter_append, hkept r.oneLine, hdropped, List.append_nil]

/-- The last stretch is what follows the last line end. -/
lemma rtakeWhile_eq (h : Splits cs rows last) : cs.rtakeWhile (fun c => !isLineEnd c) = last := by
  have hrow : (written rows).reverse.takeWhile (fun c => !isLineEnd c) = [] := by
    cases hreverse : (written rows).reverse with
    | nil => rfl
    | cons c rest =>
      have hwritten : (written rows).getLast? = some c := by
        rw [← List.head?_reverse, hreverse, List.head?_cons]
      have hc := isLineEnd_of_getLast?_written hwritten
      simp [hc]
  rw [h.eq, List.rtakeWhile, List.reverse_append, List.takeWhile_append_of_pos, hrow,
    List.append_nil, List.reverse_reverse]
  intro c hc
  simp [h.lastOneLine c (List.mem_reverse.mp hc)]

end Splits

/-! ### A character within a line -/

lemma piecesFrom_of_head? {rest : List Char} (h : ∀ c ∈ rest.head?, isLineEnd c)
    (line : List Char) : ∃ after, piecesFrom line rest = line.reverse :: after := by
  unfold piecesFrom
  split
  · exact ⟨_, rfl⟩
  · exact ⟨_, rfl⟩
  · exact ⟨_, rfl⟩
  · exact ⟨_, rfl⟩
  next c rest _ hcr hlf =>
    have hc : c = '\r' ∨ c = '\n' := by simpa [isLineEnd] using h c rfl
    exact (hc.elim hcr hlf).elim

lemma dropEmptyLast_cons {piece : List Char} (h : piece ≠ []) (rest : List (List Char)) :
    dropEmptyLast (piece :: rest) = piece :: dropEmptyLast rest := by
  cases rest <;> simp [dropEmptyLast, h]

/-- **A character that is no line end stands within a line**, which begins after the line end before
it and goes on up to the next one. -/
lemma exists_line_around {c : Char} (hc : isLineEnd c = false) (cs ds : List Char) :
    ∃ before after, lines (String.ofList (cs ++ c :: ds)) = before ++
      String.ofList (cs.rtakeWhile (fun c => !isLineEnd c) ++
        c :: ds.takeWhile fun c => !isLineEnd c) :: after := by
  obtain ⟨rows, last, h⟩ := exists_splits cs
  set word := last ++ c :: ds.takeWhile fun c => !isLineEnd c with hword
  set rest := ds.dropWhile fun c => !isLineEnd c with hrest
  have hone : OneLine word := by
    refine List.forall_mem_append.mpr ⟨h.lastOneLine, List.forall_mem_cons.mpr ⟨hc, fun d hd => ?_⟩⟩
    simpa using List.mem_takeWhile_imp hd
  have hhead : ∀ d ∈ rest.head?, isLineEnd d := by
    intro d hd
    have hnot := List.head?_dropWhile_not (fun c => !isLineEnd c) ds
    rw [← hrest, Option.mem_def.mp hd] at hnot
    simpa using hnot
  have hsplit : cs ++ c :: ds = written rows ++ (word ++ rest) := by
    rw [h.eq, hword, List.append_assoc, List.append_assoc, List.cons_append,
      List.takeWhile_append_dropWhile]
  obtain ⟨after, hafter⟩ := piecesFrom_of_head? hhead word.reverse
  have hne : word ≠ [] := by simp [hword]
  have hpieces : piecesFrom [] (cs ++ c :: ds) =
      rows.map (fun r => r.line.toList) ++ word :: after := by
    have hstart : (word ++ rest).head? ≠ some '\n' := by
      rw [List.head?_append_of_ne_nil _ hne]
      exact head?_ne_of_oneLine hone
    rw [hsplit, piecesFrom_written h.apart hstart, piecesFrom_oneLine hone, List.append_nil, hafter,
      List.reverse_reverse]
  refine ⟨(rows.map fun r => r.line.toList).map String.ofList,
    (dropEmptyLast after).map String.ofList, ?_⟩
  rw [lines, String.toList_ofList, hpieces, dropEmptyLast_append _ (List.cons_ne_nil _ _),
    dropEmptyLast_cons hne, List.map_append, List.map_cons, h.rtakeWhile_eq]

end Text

namespace SourceFile

open Text

/-- **Splitting a text into lines can be undone.** Line ends of all kinds count alike, and make up
the whole difference between a text and its lines: no line holds one, nothing else is missing, and
there are as many lines as line ends, and one more when the text goes on after the last of them.
Lines that are written with ends of any kind are read back, as long as no two ends look like one;
the last line needs no end unless it is empty. A character that is no line end does not end a
line. -/
theorem ofText_invertible (path : String) :
    (∀ t : String,
      (ofText path t).lines = (ofText path (String.ofList
        ((mergePairs t.toList).map fun c => if c = '\r' then '\n' else c))).lines ∧
      (∀ line ∈ (ofText path t).lines, OneLine line.toList) ∧
      String.join (ofText path t).lines =
        String.ofList (t.toList.filter fun c => !isLineEnd c) ∧
      (ofText path t).lines.length = countLineEnds t.toList +
        if t.toList.getLast?.any fun c => !isLineEnd c then 1 else 0) ∧
    (∀ rows : List EndedLine, rows.IsChain EndedLine.KeptApart →
      (ofText path (String.ofList (written rows))).lines = rows.map EndedLine.line ∧
      ∀ before last, rows = before ++ [last] → last.line ≠ "" →
        (ofText path (String.ofList (written before ++ last.line.toList))).lines =
          rows.map EndedLine.line) ∧
    ∀ c, isLineEnd c = false → ∀ s t : String, ∃ before after,
      (ofText path (String.ofList (s.toList ++ c :: t.toList))).lines = before ++
        String.ofList (s.toList.rtakeWhile (fun c => !isLineEnd c) ++
          c :: t.toList.takeWhile fun c => !isLineEnd c) :: after := by
  refine ⟨fun t => ?_, fun rows hrows => ⟨?_, ?_⟩, fun c hc s t => ?_⟩
  · obtain ⟨rows, last, h⟩ := exists_splits t.toList
    have hlines : (ofText path t).lines =
        rows.map EndedLine.line ++ if last = [] then [] else [String.ofList last] := by
      rw [← h.lines_eq, String.ofList_toList, ofText]
    refine ⟨?_, ?_, ?_, ?_⟩
    · rw [← unifyLineEnds_eq, ofText, ofText, lines_unifyLineEnds]
    · rw [hlines]
      intro line hline
      rcases List.mem_append.mp hline with hrow | hlast
      · obtain ⟨r, -, rfl⟩ := List.mem_map.mp hrow
        exact r.oneLine
      · split at hlast
        · cases hlast
        · rw [List.mem_singleton.mp hlast, String.toList_ofList]
          exact h.lastOneLine
    · rw [← String.toList_inj, String.toList_join, String.toList_ofList, h.filter_eq, hlines,
        List.flatMap_append, List.flatMap_map]
      cases last <;> simp
    · rw [hlines, List.length_append, List.length_map, h.length_rows]
      rw [if_congr h.last_ne_nil_iff rfl rfl]
      by_cases hnil : last = [] <;> simp [hnil]
  · have h : Splits (written rows) rows [] := ⟨hrows, by simp [OneLine], by simp⟩
    rw [ofText, h.lines_eq, if_pos rfl, List.append_nil]
  · rintro before last rfl hne
    have h : Splits (written before ++ last.line.toList) before last.line.toList :=
      ⟨hrows.left_of_append, last.oneLine, rfl⟩
    rw [ofText, h.lines_eq, if_neg (by simpa using hne), String.ofList_toList, List.map_append]
    rfl
  · obtain ⟨before, after, hlines⟩ := exists_line_around hc s.toList t.toList
    exact ⟨before, after, by rw [ofText, hlines]⟩

/-- Lines with ends of all kinds, of which an empty one has both characters after a carriage
return. -/
def mixedEnds : List EndedLine :=
  [⟨"a\x0c", .cr, by decide⟩, ⟨"", .crLf, by decide⟩, ⟨"", .lf, by decide⟩, ⟨"b", .cr, by decide⟩]

theorem ofText_invertible_mixedEnds :
    mixedEnds.IsChain EndedLine.KeptApart ∧
      (ofText "p" "a\x0c\r\r\n\nb\r").lines = ["a\x0c", "", "", "b"] ∧
      (ofText "p" "a\x0c\r\r\n\nb").lines = ["a\x0c", "", "", "b"] ∧
      isLineEnd '\x0c' = false := by
  have hapart : mixedEnds.IsChain EndedLine.KeptApart := by decide
  have hwritten : String.ofList (written mixedEnds) = "a\x0c\r\r\n\nb\r" := by decide
  have hshort : String.ofList (written (mixedEnds.take 3) ++ "b".toList) =
      "a\x0c\r\r\n\nb" := by decide
  obtain ⟨hread, hdropped⟩ := (ofText_invertible "p").2.1 mixedEnds hapart
  rw [hwritten] at hread
  have hlast := hdropped (mixedEnds.take 3) ⟨"b", .cr, by decide⟩ rfl (by decide)
  rw [hshort] at hlast
  exact ⟨hapart, hread, hlast, by decide⟩

end SourceFile

end LineAudit
