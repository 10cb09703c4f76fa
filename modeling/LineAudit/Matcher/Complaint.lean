import LineAudit.Matcher.Regex

/-!
What is wrong with a matcher or with the specification of one, and where.

Both are trees whose inner nodes are `any` and `all`. A node is named by the way to it from the
root, a list of steps into children.
-/

namespace LineAudit

/-- The two ways to join matchers: one of them, or every one of them, has to match. -/
inductive Joint
  | any
  | all
  deriving DecidableEq, Repr

def Joint.key : Joint → String
  | any => "any"
  | all => "all"

/-- A step from a node to one of its children. -/
structure NodeStep where
  joint : Joint
  index : Nat
  deriving DecidableEq, Repr

def NodeStep.text (s : NodeStep) : String := s!".{s.joint.key}[{s.index}]"

abbrev NodePath := List NodeStep

/-- The way to a node, written after the name of the root. -/
def NodePath.text (root : String) (path : NodePath) : String :=
  root ++ String.join (path.map NodeStep.text)

inductive Problem
  /-- A literal that is no text or is empty. -/
  | emptyLiteral
  /-- The same, where the literal stands under its key. -/
  | emptyLiteralKey
  | regex (problem : RegexProblem)
  | noAlternative (joint : Joint)
  | notList (joint : Joint) (kind : String)
  /-- A specification that is neither a text nor a mapping. -/
  | notSpec (kind : String)
  /-- A mapping without exactly one of the keys that say what it is. -/
  | keyCount (keys : List Value)
  | notMatcher (kind : String)
  deriving Repr

def specKeys : List String := ["literal", "regex", "any", "all"]

/-- What is wrong with a node, as written after the way to it. -/
def Problem.text : Problem → String
  | emptyLiteral => ": literal must be a non-empty string"
  | emptyLiteralKey => ".literal: must be a non-empty string"
  | regex problem => ": " ++ problem.message
  | noAlternative joint => "." ++ joint.key ++ ": expected at least one alternative"
  | notList joint kind => "." ++ joint.key ++ ": expected list, got " ++ kind
  | notSpec kind => ": expected string or dict, got " ++ kind
  | keyCount keys =>
    ": expected exactly one of " ++ (Value.list (specKeys.map .str)).display ++ ", got " ++
      (Value.list keys).display
  | notMatcher kind => ": expected Matcher, got " ++ kind

structure Complaint where
  path : NodePath
  problem : Problem
  deriving Repr

namespace Complaint

/-- The complaint about a child, seen from its parent. -/
def under (s : NodeStep) (c : Complaint) : Complaint := { c with path := s :: c.path }

/-- A complaint in words; `root` names the root of the tree. -/
def message (root : String) (c : Complaint) : String :=
  NodePath.text root c.path ++ c.problem.text

end Complaint

end LineAudit
