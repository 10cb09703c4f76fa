import LineAudit.Yaml.Mark

/-!
Nodes: what a YAML text consists of, before its scalars become values.

Each node has a tag, which says what kind of value it stands for, and the place where it starts.
-/

namespace LineAudit.Yaml

/-- What a node stands for: a kind of value that every text knows, a sign with a meaning among the
keys of a mapping, or anything that a text may name. -/
inductive Tag
  | null
  | bool
  | int
  | float
  | binary
  | timestamp
  | omap
  | pairs
  | set
  | str
  | seq
  | map
  /-- A key that asks for merging. -/
  | merge
  /-- An equals sign as a key. -/
  | value
  | other (text : String)
  deriving DecidableEq, Inhabited

def coreLead : String := "tag:yaml.org,2002:"

namespace Tag

/-- The tags that every text knows, by the ends of their texts. -/
def core : List (String × Tag) := [
  ("null", null), ("bool", bool), ("int", int), ("float", float), ("binary", binary),
  ("timestamp", timestamp), ("omap", omap), ("pairs", pairs), ("set", set), ("str", str),
  ("seq", seq), ("map", map), ("merge", merge), ("value", value)]

def ofText (text : String) : Tag :=
  match core.find? fun (name, _) => coreLead ++ name = text with
  | some (_, tag) => tag
  | none => other text

def text : Tag → String
  | other text => text
  | tag =>
    match core.find? fun (_, known) => known = tag with
    | some (name, _) => coreLead ++ name
    | none => ""

end Tag

inductive Node
  | scalar (tag : Tag) (start : Mark) (text : String)
  | sequence (tag : Tag) (start : Mark) (items : List Node)
  | mapping (tag : Tag) (start : Mark) (entries : List (Node × Node))
  deriving Inhabited

namespace Node

def tag : Node → Tag
  | scalar tag _ _ | sequence tag _ _ | mapping tag _ _ => tag

def start : Node → Mark
  | scalar _ start _ | sequence _ start _ | mapping _ start _ => start

def kindName : Node → String
  | scalar _ _ _ => "scalar"
  | sequence _ _ _ => "sequence"
  | mapping _ _ _ => "mapping"

/-- An empty scalar, which stands for null. -/
def empty (start : Mark) : Node := scalar .null start ""

end Node

end LineAudit.Yaml
