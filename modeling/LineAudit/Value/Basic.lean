import LineAudit.Calendar
import LineAudit.Number.Literal

/-!
Values of a data file: what a rule pack or a report of another tool may hold at any place.

Mappings keep the order in which their keys were first given. Two keys are the same when they are
equal as values, where truth values count as the numbers 0 and 1 and whole numbers equal the same
numbers with a point.
-/

namespace LineAudit

/-- A value of a data file. -/
inductive Value
  | null
  | bool (b : Bool)
  | int (n : Int)
  | float (x : Binary64)
  | str (s : String)
  | bytes (b : List UInt8)
  | date (d : Date)
  | moment (t : Moment)
  | list (items : List Value)
  | tuple (items : List Value)
  | set (items : List Value)
  | dict (entries : List (Value × Value))
  deriving Inhabited, Repr

namespace Value

def kindName : Value → String
  | null => "NoneType"
  | bool _ => "bool"
  | int _ => "int"
  | float _ => "float"
  | str _ => "str"
  | bytes _ => "bytes"
  | date _ => "date"
  | moment _ => "datetime"
  | list _ => "list"
  | tuple _ => "tuple"
  | set _ => "set"
  | dict _ => "dict"

/-- Null, false, zero and everything empty count as false. -/
def isTrue : Value → Bool
  | null => false
  | bool b => b
  | int n => n != 0
  | float x => !x.isZero
  | str s => !s.isEmpty
  | bytes b => !b.isEmpty
  | date _ | moment _ => true
  | list items | tuple items | set items => !items.isEmpty
  | dict entries => !entries.isEmpty

def str? : Value → Option String
  | str s => some s
  | _ => none

def number? : Value → Option Number
  | bool b => some (.int (if b then 1 else 0))
  | int n => some (.int n)
  | float x => some (.float x)
  | _ => none

/-- Equality of numbers, between whole ones and others too. -/
def sameNumber : Number → Number → Bool
  | .int m, .int n => m == n
  | .int m, .float y => y.whole? == some m
  | .float x, .int n => x.whole? == some n
  | .float x, .float y => x.same y

/-- Two keys of a mapping are the same. -/
def sameKey (x y : Value) : Bool :=
  match x, y with
  | null, null => true
  | str s, str t => s == t
  | bytes a, bytes b => a == b
  | date d, date e => d == e
  | moment t, moment u => t.offset?.isSome == u.offset?.isSome && t.instant == u.instant
  | x, y =>
    match x.number?, y.number? with
    | some m, some n => sameNumber m n
    | _, _ => false

/-- Whether a value can be a key: it is neither a list, a set nor a mapping. -/
def isKey : Value → Bool
  | list _ | set _ | dict _ => false
  | _ => true

def find? (key : Value) : List (Value × Value) → Option Value
  | [] => none
  | (k, v) :: rest => if sameKey k key then some v else find? key rest

/-- Sets the value at a key. A key that is there already keeps its place. -/
def put (key value : Value) : List (Value × Value) → List (Value × Value)
  | [] => [(key, value)]
  | (k, v) :: rest =>
    if sameKey k key then (k, value) :: rest else (k, v) :: put key value rest

def field? (key : String) (entries : List (Value × Value)) : Option Value :=
  find? (.str key) entries

/-- The value at a text key, and null when the key is missing. -/
def fieldD (key : String) (entries : List (Value × Value)) : Value :=
  (field? key entries).getD null

end Value

end LineAudit
