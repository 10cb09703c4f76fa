import LineAudit.Pattern.Compiled
import LineAudit.Yaml.Node

/-!
What a scalar without quotes and without a tag stands for, by its form.

Only forms that may start with the first character of the scalar are tried, in a fixed order. A
scalar of no special form is a text.
-/

namespace LineAudit.Yaml

/-- A form of scalars: its tag, the characters that it may start with, and the texts that have it.
-/
structure ScalarForm where
  tag : Tag
  starts : String
  pattern : String

namespace ScalarForm

def truth : ScalarForm where
  tag := .bool
  starts := "yYnNtTfFoO"
  pattern := "^(?:yes|Yes|YES|no|No|NO|true|True|TRUE|false|False|FALSE|on|On|ON|off|Off|OFF)$"

def floating : ScalarForm where
  tag := .float
  starts := "-+0123456789."
  pattern := "^(?:[-+]?(?:[0-9][0-9_]*)\\.[0-9_]*(?:[eE][-+][0-9]+)?" ++
    "|\\.[0-9][0-9_]*(?:[eE][-+][0-9]+)?" ++
    "|[-+]?[0-9][0-9_]*(?::[0-5]?[0-9])+\\.[0-9_]*" ++
    "|[-+]?\\.(?:inf|Inf|INF)|\\.(?:nan|NaN|NAN))$"

def integer : ScalarForm where
  tag := .int
  starts := "-+0123456789"
  pattern := "^(?:[-+]?0b[0-1_]+|[-+]?0[0-7_]+|[-+]?(?:0|[1-9][0-9_]*)" ++
    "|[-+]?0x[0-9a-fA-F_]+|[-+]?[1-9][0-9_]*(?::[0-5]?[0-9])+)$"

def merge : ScalarForm where
  tag := .merge
  starts := "<"
  pattern := "^<<$"

def null : ScalarForm where
  tag := .null
  starts := "~nN"
  pattern := "^(?:~|null|Null|NULL)$"

def timestamp : ScalarForm where
  tag := .timestamp
  starts := "0123456789"
  pattern := "^(?:[0-9][0-9][0-9][0-9]-[0-9][0-9]-[0-9][0-9]" ++
    "|[0-9][0-9][0-9][0-9]-[0-9][0-9]?-[0-9][0-9]?(?:[Tt]|[ \\t]+)[0-9][0-9]?" ++
    ":[0-9][0-9]:[0-9][0-9](?:\\.[0-9]*)?(?:[ \\t]*(?:Z|[-+][0-9][0-9]?(?::[0-9][0-9])?))?)$"

def defaultKey : ScalarForm where
  tag := .value
  starts := "="
  pattern := "^=$"

def sign : ScalarForm where
  tag := .other (coreLead ++ "yaml")
  starts := "!&*"
  pattern := "^[!&*]$"

/-- All forms, in the order in which they are tried. -/
def all : List ScalarForm :=
  [truth, floating, integer, merge, null, timestamp, defaultKey, sign]

def allCompiled : List (ScalarForm × Except Pattern.Refusal Pattern.Compiled) :=
  all.map fun form => (form, Pattern.compile form.pattern false)

end ScalarForm

/-- A text that starts with a character has a form, by its pattern made ready. -/
def hasForm (text : List Char) (c : Char)
    (candidate : ScalarForm × Except Pattern.Refusal Pattern.Compiled) : Bool :=
  candidate.1.starts.toList.contains c &&
    match candidate.2 with
    | .ok compiled => compiled.searchFrom 0 [] text
    | .error _ => false

/-- The tag of a scalar that has none, by its form. -/
def tagOfForm (text : List Char) : Tag :=
  match text with
  | [] => .null
  | c :: _ =>
    match ScalarForm.allCompiled.find? (hasForm text c) with
    | some (form, _) => form.tag
    | none => .str

end LineAudit.Yaml
