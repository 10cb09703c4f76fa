import LineAudit.Value.Basic

/-!
The order of values: numbers by size, texts by code point, byte strings by byte, dates and times by
time. Values of different kinds have no order.
-/

namespace LineAudit.Value

/-- The kinds of values that can be compared among one another. -/
inductive OrderKind
  | number
  | text
  | bytes
  | date
  | localTime
  | worldTime
  deriving DecidableEq

def orderKind? : Value → Option OrderKind
  | bool _ | int _ | float _ => some .number
  | str _ => some .text
  | bytes _ => some .bytes
  | date _ => some .date
  | moment t => some (if t.offset?.isSome then .worldTime else .localTime)
  | _ => none

def numberLess : Number → Number → Bool
  | .int m, .int n => m < n
  | .int m, .float y => (match y.quotient? with
      | some (a, k) => m * twoTo k < a
      | none => y == .infinite false)
  | .float x, .int n => (match x.quotient? with
      | some (a, k) => a < n * twoTo k
      | none => x == .infinite true)
  | .float x, .float y => x.less y

def bytesLess : List UInt8 → List UInt8 → Bool
  | [], [] => false
  | [], _ :: _ => true
  | _ :: _, [] => false
  | a :: as, b :: bs => a < b || a == b && bytesLess as bs

def less (x y : Value) : Bool :=
  match x, y with
  | str s, str t => s < t
  | bytes a, bytes b => bytesLess a b
  | date d, date e => d.ordinal < e.ordinal
  | moment t, moment u => t.instant < u.instant
  | x, y =>
    match x.number?, y.number? with
    | some m, some n => numberLess m n
    | _, _ => false

/-- Values in ascending order; none when two of them cannot be compared. -/
def sort? (items : List Value) : Option (List Value) :=
  match items with
  | [] => some []
  | [item] => some [item]
  | item :: rest =>
    match item.orderKind? with
    | none => none
    | some kind =>
      if rest.all fun other => other.orderKind? = some kind then
        some (items.mergeSort fun a b => !less b a)
      else none

end LineAudit.Value
