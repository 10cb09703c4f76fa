import LineAudit.Matcher.Complaint

/-!
Matchers: the tests that rules put to the lines of a file.

A matcher is a literal, a regular expression, or some or all of several matchers. What callers build
themselves is not checked: leaves may hold values that are no texts, and children may be no matchers
at all; testing such a leaf or child fails. Children are tested from left to right, up to the first
one that decides.

Every node has a mark, by which an edit in place finds it. Nodes with one mark are one object that
stands at several places.
-/

namespace LineAudit

inductive Failure
  /-- A literal is no text. -/
  | literalNotText (kind : String)
  /-- A regular expression is unusable. -/
  | unusableRegex (problem : RegexProblem)
  /-- A value was tested that is no matcher. -/
  | notMatcher (kind : String)
  /-- A matcher of a caller's own failed for a reason of its own. -/
  | raised (kind text : String)
  deriving DecidableEq, Repr

namespace Failure

def kind : Failure → String
  | literalNotText _ => "TypeError"
  | unusableRegex _ => "ValueError"
  | notMatcher _ => "AttributeError"
  | raised kind _ => kind

/-- What a failure says. A missing key is named in quotes. -/
def message : Failure → String
  | literalNotText kind => "'in <string>' requires string as left operand, not " ++ kind
  | unusableRegex problem => problem.message
  | notMatcher kind => "'" ++ kind ++ "' object has no attribute 'matches'"
  | raised kind text => if kind = "KeyError" then Text.quoted text else text

end Failure

inductive Matcher
  | literal (mark : Nat) (text : Value)
  | regex (mark : Nat) (r : Regex)
  | any (mark : Nat) (children : List Matcher)
  | all (mark : Nat) (children : List Matcher)
  /-- A regular expression that fails on every line that holds the trigger. -/
  | alarmed (mark : Nat) (trigger : String) (failure : Failure) (r : Regex)
  /-- A value that is no matcher. -/
  | foreign (v : Value)

def occursIn (needle : List Char) : List Char → Bool
  | [] => needle.isEmpty
  | c :: rest => needle.isPrefixOf (c :: rest) || occursIn needle rest

def contains (line needle : String) : Bool := occursIn needle.toList line.toList

def Regex.test (r : Regex) (line : String) : Except Failure Bool :=
  match r.search line with
  | .ok found => .ok found
  | .error problem => .error (.unusableRegex problem)

namespace Matcher

mutual

def test : Matcher → String → Except Failure Bool
  | .literal _ (.str needle), line => .ok (contains line needle)
  | .literal _ v, _ => .error (.literalNotText v.kindName)
  | .regex _ r, line => r.test line
  | .any _ children, line => testAny children line
  | .all _ children, line => testAll children line
  | .alarmed _ trigger failure r, line =>
    if contains line trigger then .error failure else r.test line
  | .foreign v, _ => .error (.notMatcher v.kindName)

/-- Whether one of several matchers matches; the first one that does not say no decides. -/
def testAny : List Matcher → String → Except Failure Bool
  | [], _ => .ok false
  | m :: rest, line =>
    match m.test line with
    | .ok false => testAny rest line
    | decision => decision

/-- Whether every one of several matchers matches; the first one that does not say yes decides. -/
def testAll : List Matcher → String → Except Failure Bool
  | [], _ => .ok true
  | m :: rest, line =>
    match m.test line with
    | .ok true => testAll rest line
    | decision => decision

end

def complain (problem : Problem) : List Complaint := [⟨[], problem⟩]

def literalComplaints : Value → List Complaint
  | .str s => if s.isEmpty then complain .emptyLiteral else []
  | _ => complain .emptyLiteral

def regexComplaints (r : Regex) : List Complaint :=
  match r.problem? with
  | some problem => complain (.regex problem)
  | none => []

mutual

def complaints : Matcher → List Complaint
  | .literal _ v => literalComplaints v
  | .regex _ r | .alarmed _ _ _ r => regexComplaints r
  | .any _ [] => complain (.noAlternative .any)
  | .any _ children => childComplaints .any 0 children
  | .all _ [] => complain (.noAlternative .all)
  | .all _ children => childComplaints .all 0 children
  | .foreign v => complain (.notMatcher v.kindName)

/-- The complaints about children, the first of which has the given index. -/
def childComplaints (joint : Joint) (index : Nat) : List Matcher → List Complaint
  | [] => []
  | m :: rest =>
    m.complaints.map (Complaint.under ⟨joint, index⟩) ++ childComplaints joint (index + 1) rest

end

/-- The type name of a value that is no matcher. -/
def foreignKind? : Matcher → Option String
  | .foreign v => some v.kindName
  | _ => none

end Matcher

end LineAudit
