import LineAudit.Pattern.Compiled
import LineAudit.Value.Display

/-!
Regular expressions as they are given in rules: any value may be given, but only a text that is not
empty and is a well-formed pattern can be searched for.

A mistake in a pattern is kept with it, so that all mistakes of a rule set can be reported together.
Counts of repetitions that are beyond all bounds, and a pattern with two alphabets, are refused at
once instead.
-/

namespace LineAudit

inductive RegexProblem
  | notText
  | malformed (pattern : String) (fault : Pattern.Fault) (position? : Option Nat)
  deriving DecidableEq, Repr

def RegexProblem.message : RegexProblem → String
  | notText => "regex must be a non-empty string"
  | malformed pattern fault position? =>
    "invalid regex " ++ Text.quoted pattern ++ ": " ++ Pattern.faultText pattern fault position?

inductive RegexRefusal
  | longCount (digits : Nat)
  | largeCount
  | twoAlphabets
  deriving DecidableEq, Repr

/-- The pattern that a value stands for, or what is wrong with it. -/
def readRegex (pattern : Value) (ignoreCase : Bool) :
    Except RegexRefusal (Except RegexProblem Pattern.Compiled) :=
  match pattern with
  | .str s =>
    if s.isEmpty then .ok (.error .notText)
    else match Pattern.compile s ignoreCase with
      | .ok program => .ok (.ok program)
      | .error (.malformed fault position?) => .ok (.error (.malformed s fault position?))
      | .error (.longCount digits) => .error (.longCount digits)
      | .error .largeCount => .error .largeCount
      | .error .twoAlphabets => .error .twoAlphabets
  | _ => .ok (.error .notText)

/-- A regular expression with what became of its pattern. -/
structure Regex where
  pattern : Value
  ignoreCase : Bool
  program : Except RegexProblem Pattern.Compiled
  read_eq : readRegex pattern ignoreCase = .ok program

namespace Regex

def make (pattern : Value) (ignoreCase : Bool) : Except RegexRefusal Regex :=
  match h : readRegex pattern ignoreCase with
  | .ok program => .ok ⟨pattern, ignoreCase, program, h⟩
  | .error refusal => .error refusal

/-- What is wrong with a regular expression, if something is. -/
def problem? (r : Regex) : Option RegexProblem :=
  match r.program with
  | .ok _ => none
  | .error problem => some problem

def search (r : Regex) (text : String) : Except RegexProblem Bool :=
  match r.program with
  | .ok program => .ok (program.search text)
  | .error problem => .error problem

end Regex

end LineAudit
