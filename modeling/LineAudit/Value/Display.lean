import LineAudit.Number.Shortest
import LineAudit.Text.Quoted
import LineAudit.Value.Basic

/-!
Values as text.

The display of a value shows its structure, with texts in quotes; the plain text of a value is the
text itself for a text, and the written form for a date or time. The items of a set are shown in the
order in which they came.
-/

namespace LineAudit

namespace Value

def offsetDisplay (minutes : Int) : String :=
  if minutes = 0 then "datetime.timezone.utc"
  else s!"datetime.timezone({Moment.spanText minutes})"

def dateDisplay (d : Date) : String := s!"datetime.date({d.year}, {d.month}, {d.day})"

/-- Seconds are shown when they or their fraction are not zero. -/
def momentDisplay (t : Moment) : String :=
  let start := [t.date.year, t.date.month, t.date.day, t.hour, t.minute]
  let seconds := if t.second = 0 ∧ t.microsecond = 0 then [] else [t.second]
  let fraction := if t.microsecond = 0 then [] else [t.microsecond]
  let numbers := (start ++ seconds ++ fraction).map fun n => toString n
  let offset := match t.offset? with
    | none => []
    | some minutes => [s!"tzinfo={offsetDisplay minutes}"]
  "datetime.datetime(" ++ ", ".intercalate (numbers ++ offset) ++ ")"

mutual

def display : Value → String
  | null => "None"
  | bool true => "True"
  | bool false => "False"
  | int n => toString n
  | float x => x.text
  | str s => Text.quoted s
  | bytes b => Text.quotedBytes b
  | date d => dateDisplay d
  | moment t => momentDisplay t
  | list items => "[" ++ ", ".intercalate (displayAll items) ++ "]"
  | tuple [item] => "(" ++ display item ++ ",)"
  | tuple items => "(" ++ ", ".intercalate (displayAll items) ++ ")"
  | set [] => "set()"
  | set items => "\x7b" ++ ", ".intercalate (displayAll items) ++ "\x7d"
  | dict entries => "\x7b" ++ ", ".intercalate (displayEntries entries) ++ "\x7d"

def displayAll : List Value → List String
  | [] => []
  | item :: rest => display item :: displayAll rest

def displayEntries : List (Value × Value) → List String
  | [] => []
  | (key, value) :: rest => (display key ++ ": " ++ display value) :: displayEntries rest

end

mutual

/-- Whether a value can be written: a whole number with too many digits cannot. -/
def isWritable : Value → Bool
  | int n => Number.isShort n
  | list items | tuple items | set items => areWritable items
  | dict entries => entriesAreWritable entries
  | _ => true

def areWritable : List Value → Bool
  | [] => true
  | item :: rest => isWritable item && areWritable rest

def entriesAreWritable : List (Value × Value) → Bool
  | [] => true
  | (key, value) :: rest => isWritable key && isWritable value && entriesAreWritable rest

end

def text : Value → String
  | str s => s
  | date d => d.text
  | moment t => t.text
  | v => v.display

end Value

/-- A value that can be written. All values can but those that hold a whole number of more than 4300
digits. Whatever is declared to be a text, such as a description, is a value of this kind. -/
structure Writable where
  value : Value
  isWritable : value.isWritable = true

namespace Writable

def null : Writable := ⟨.null, rfl⟩

def bool (b : Bool) : Writable := ⟨.bool b, rfl⟩

def str (s : String) : Writable := ⟨.str s, rfl⟩

def ofValue? (v : Value) : Option Writable :=
  if h : v.isWritable = true then some ⟨v, h⟩ else none

def text (w : Writable) : String := w.value.text

@[simp] theorem text_str (s : String) : (str s).text = s := rfl

@[simp] theorem str_inj {s t : String} : str s = str t ↔ s = t :=
  ⟨fun h => Value.str.inj (congrArg value h), congrArg str⟩

@[simp] theorem str_ne_null (s : String) : str s ≠ null := fun h => nomatch congrArg value h

@[simp] theorem null_ne_str (s : String) : null ≠ str s := (str_ne_null s).symm

@[simp] theorem bool_inj {a b : Bool} : bool a = bool b ↔ a = b :=
  ⟨fun h => Value.bool.inj (congrArg value h), congrArg bool⟩

end Writable

end LineAudit
