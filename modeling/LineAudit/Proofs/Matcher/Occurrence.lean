import LineAudit.Matcher.Basic
import LineAudit.Proofs.Text.Blank

/-!
Where literals occur.
-/

namespace LineAudit

lemma occursIn_iff (needle cs : List Char) : occursIn needle cs = true ↔ needle <:+: cs := by
  induction cs with
  | nil => simp [occursIn]
  | cons c rest ih =>
    rw [occursIn, Bool.or_eq_true, ih, List.isPrefixOf_iff_prefix, List.infix_cons_iff]

/-- A text occurs in a line. -/
def Occurs (needle line : String) : Prop := needle.toList <:+: line.toList

instance (needle line : String) : Decidable (Occurs needle line) :=
  List.instDecidableIsInfixOfDecidableEq needle.toList line.toList

lemma contains_iff (line needle : String) : contains line needle = true ↔ Occurs needle line :=
  occursIn_iff needle.toList line.toList

/-- A text without white space occurs in a line exactly when it does so without the white space at
the ends of the line. -/
lemma occurs_strip_iff {needle : String} (hne : needle.toList ≠ [])
    (hsolid : Text.Solid needle.toList) (line : String) :
    Occurs needle (Text.strip line) ↔ Occurs needle line := by
  rw [Occurs, Occurs, Text.strip, String.toList_ofList, Text.infix_trimBlanks_iff hne hsolid]

end LineAudit
