import LineAudit.Proofs.Text.Blank
import LineAudit.Proofs.Text.Lowercase
import LineAudit.Severity

/-!
The names of severities, as they are read.

A name may be written in letters of either case, with white space around it. Main result: nothing
else is a name. What is left of a text without its outer white space is refused if it holds a
character beyond ASCII, although some of these have small letters of ASCII for lower-case forms.
-/

namespace LineAudit

namespace Text

lemma isBlank_of_lt : ∀ n < 128, (Char.ofNat n).toLower.isAlpha = true →
    isBlank (Char.ofNat n) = false := by
  decide +kernel

/-- What is a plain word but for letter case is ASCII, and holds no white space. -/
lemma ascii_of_plainWord {word spelled : List Char} (hword : PlainWord word)
    (h : spelled.map Char.toLower = word) : (∀ c ∈ spelled, c.toNat < 128) ∧ Solid spelled := by
  have halpha : ∀ c ∈ spelled, c.toLower.isAlpha = true :=
    fun c hc => (hword c.toLower (h ▸ List.mem_map_of_mem hc)).1
  have hascii : ∀ c ∈ spelled, c.toNat < 128 := by
    intro c hc
    by_contra hge
    have hself := halpha c hc
    rw [toLower_of_ge (Nat.not_lt.mp hge)] at hself
    exact hge (lt_of_isAlpha hself).2
  refine ⟨hascii, fun c hc => ?_⟩
  have hblank := isBlank_of_lt c.toNat (hascii c hc)
  rw [Char.ofNat_toNat] at hblank
  exact hblank (halpha c hc)

end Text

namespace Severity

/-- The names of a severity. -/
def names : Severity → List String
  | informational => [informational.name, "info"]
  | severity => [severity.name]

/-- A text is a word in ASCII letters of either case, with white space around it. -/
def Spells (s word : String) : Prop :=
  ∃ before spelled after, s.toList = before ++ spelled ++ after ∧
    (∀ c ∈ before ++ after, Text.isBlank c = true) ∧ spelled.map Char.toLower = word.toList

variable {s word : String} {severity : Severity}

lemma ofName?_eq_some_iff : ofName? s = some severity ↔ s ∈ severity.names := by
  unfold ofName?
  split_ifs with hinfo
  · subst hinfo
    cases severity <;> simp [names, name]
  · constructor
    · intro h
      have hname : severity.name = s := by simpa using List.find?_some h
      subst hname
      cases severity <;> simp [names]
    · intro h
      have hname : severity.name = s := by
        cases severity <;> simp_all [names]
      subst hname
      cases severity <;> rfl

lemma plainWord_of_mem_names (h : word ∈ severity.names) :
    Text.PlainWord word.toList ∧ word.toList ≠ [] := by
  have hall : ∀ severity ∈ all, ∀ word ∈ severity.names,
      Text.PlainWord word.toList ∧ word.toList ≠ [] := by
    decide +kernel
  exact hall severity (by cases severity <;> decide) word h

/-- What a text spells is what is left of it without the white space at its ends. -/
lemma spells_iff (hword : Text.PlainWord word.toList) (hne : word.toList ≠ []) :
    Spells s word ↔ (Text.strip s).toList.map Char.toLower = word.toList := by
  rw [Text.strip, String.toList_ofList]
  constructor
  · rintro ⟨before, spelled, after, hsplit, hblank, hspelled⟩
    have hne' : spelled ≠ [] := by
      rintro rfl
      exact hne hspelled.symm
    rwa [(Text.trimBlanks_eq_iff hne' (Text.ascii_of_plainWord hword hspelled).2 s.toList).mpr
      ⟨before, after, hsplit, hblank⟩]
  · intro h
    obtain ⟨before, after, hsplit, hblank⟩ := Text.trimBlanks_split s.toList
    exact ⟨before, _, after, hsplit, hblank, h⟩

lemma lowercase_eq_iff (hword : Text.PlainWord word.toList) :
    Text.lowercase s = word ↔ s.toList.map Char.toLower = word.toList := by
  rw [← Text.lowerFrom_eq_iff hword [], ← String.toList_inj, Text.lowercase, String.toList_ofList]

lemma parse_eq_ok_iff : parse s = .ok severity ↔ ∃ word ∈ severity.names, Spells s word := by
  have hname : parse s = .ok severity ↔ Text.lowercase (Text.strip s) ∈ severity.names := by
    rw [← ofName?_eq_some_iff, parse]
    cases ofName? (Text.lowercase (Text.strip s)) <;> simp
  rw [hname]
  constructor
  · intro h
    obtain ⟨hword, hne⟩ := plainWord_of_mem_names h
    exact ⟨_, h, (spells_iff hword hne).mpr ((lowercase_eq_iff hword).mp rfl)⟩
  · rintro ⟨word, h, hspells⟩
    obtain ⟨hword, hne⟩ := plainWord_of_mem_names h
    rwa [(lowercase_eq_iff hword).mpr ((spells_iff hword hne).mp hspells)]

lemma parse_eq_error_iff :
    parse s = .error (.unknown s) ↔ ∀ severity, parse s ≠ .ok severity := by
  unfold parse
  cases ofName? (Text.lowercase (Text.strip s)) <;> simp

lemma message_unknown (s : String) : (SeverityError.unknown s).message =
    "unknown severity '" ++ s ++ "' (valid: critical, high, medium, low, informational)" := by
  have hnames : "' (valid: " ++ (", ".intercalate (all.map name) ++ ")") =
      "' (valid: critical, high, medium, low, informational)" := by decide +kernel
  have hmessage : (SeverityError.unknown s).message = "unknown severity '" ++ s ++
      ("' (valid: " ++ (", ".intercalate (all.map name) ++ ")")) := by
    unfold SeverityError.message
    simp only [String.append_assoc]
  exact hmessage.trans (congrArg _ hnames)

/-- **A severity is read from its names in ASCII letters of either case, with white space around
them, and from nothing else.** All other texts are refused with the text as it is, among them all in
which, without their outer white space, a character beyond ASCII is left. -/
theorem parse_caseless (s : String) :
    (∀ severity : Severity, parse s = .ok severity ↔ ∃ word ∈ severity.names, Spells s word) ∧
    ((∀ severity : Severity, ∀ word ∈ severity.names, ¬ Spells s word) →
      parse s = .error (.unknown s)) ∧
    ((∃ c ∈ (Text.strip s).toList, 128 ≤ c.toNat) → parse s = .error (.unknown s)) ∧
    (SeverityError.unknown s).message = "unknown severity '" ++ s ++
      "' (valid: critical, high, medium, low, informational)" := by
  refine ⟨fun severity => parse_eq_ok_iff, fun h => ?_, ?_, ?_⟩
  · refine parse_eq_error_iff.mpr fun severity hok => ?_
    obtain ⟨word, hword, hspells⟩ := parse_eq_ok_iff.mp hok
    exact h severity word hword hspells
  · rintro ⟨c, hc, hge⟩
    refine parse_eq_error_iff.mpr fun severity hok => ?_
    obtain ⟨word, hword, hspells⟩ := parse_eq_ok_iff.mp hok
    obtain ⟨hplain, hne⟩ := plainWord_of_mem_names hword
    have hascii := (Text.ascii_of_plainWord hplain ((spells_iff hplain hne).mp hspells)).1 c hc
    exact absurd hge (Nat.not_le.mpr hascii)
  · exact message_unknown s

/-- A name in mixed case with white space of several kinds around it; a dotted capital in it makes
it none, and neither does a text become one whose lower-case form alone is ASCII. -/
theorem parse_caseless_dottedCapital :
    parse "\u3000\tInFo\n" = .ok .informational ∧
    ('İ' ∈ (Text.strip " İnfo").toList ∧ parse " İnfo" = .error (.unknown " İnfo")) ∧
    (Text.lowercase "\u212a" = "k" ∧ parse "\u212a" = .error (.unknown "\u212a")) := by
  obtain ⟨hspells, -, -, -⟩ := parse_caseless "\u3000\tInFo\n"
  obtain ⟨-, -, hdotted, -⟩ := parse_caseless " İnfo"
  obtain ⟨-, -, hkelvin, -⟩ := parse_caseless "\u212a"
  have hblank : (['\u3000', '\t'] ++ ['\n']).all Text.isBlank = true := by decide
  have hinfo : Spells "\u3000\tInFo\n" "info" :=
    ⟨['\u3000', '\t'], ['I', 'n', 'F', 'o'], ['\n'], by decide +kernel, List.all_eq_true.mp hblank,
      by decide +kernel⟩
  have hleft : 'İ' ∈ (Text.strip " İnfo").toList := by decide +kernel
  have hleft' : '\u212a' ∈ (Text.strip "\u212a").toList := by decide +kernel
  exact ⟨(hspells .informational).mpr ⟨"info", by simp [names], hinfo⟩,
    ⟨hleft, hdotted ⟨_, hleft, by decide⟩⟩, by decide +kernel, hkelvin ⟨_, hleft', by decide⟩⟩

end Severity

end LineAudit
