import LineAudit.Pattern.Cursor

/-!
Counts of repetitions: the signs for the usual ones, and bounds in braces.
-/

namespace LineAudit.Pattern

/-- Counts at or above this one are refused. -/
def countLimit : Nat := 4294967295

namespace Reading

/-- A bound in braces. A missing one leaves the default. -/
def bound (ds : List Char) (default : Option Nat) : Reading (Option Nat) :=
  if ds.isEmpty then pure default
  else if Number.digitLimit < ds.length then throw (.longCount ds.length)
  else
    let n := Number.ofDigits 10 (ds.map fun d => d.toNat - 48)
    if countLimit ≤ n then throw .largeCount else pure (some n)

/-- Reads bounds in braces, after the opening one. Without bounds and a closing brace there are
none, and nothing is read. -/
def bounds? : Reading (Option (Nat × Option Nat)) := do
  let here ← get
  let size := here.rest.length
  let low ← takeWhile Char.isDigit size
  let high ← if ← accept ',' then takeWhile Char.isDigit size else pure low
  if ← accept '}' then
    let least := (← bound low (some 0)).getD 0
    let most? ← bound high none
    match most? with
    | some most => if most < least then failAt here.position .leastAboveMost
    | none => pure ()
    return some (least, most?)
  else
    set here
    return none

/-- The counts that a sign stands for; none when a brace stands for itself. -/
def counts? (sign : Char) : Reading (Option (Nat × Option Nat)) := do
  match sign with
  | '?' => return some (0, some 1)
  | '*' => return some (0, none)
  | '+' => return some (1, none)
  | _ => if (← next) = ['}'] then return none else bounds?

end Reading

/-- A repetition of the last node of a sequence, given the nodes with the last one first. -/
def repeatLast (greed : Greed) (least : Nat) (most? : Option Nat) : List Node → List Node
  | .group none [] [] body :: before => .repeated greed least most? body :: before
  | node :: before => .repeated greed least most? [node] :: before
  | [] => []

namespace Reading

def greed : Reading Greed := do
  if ← accept '?' then return .lazy
  else if ← accept '+' then return .possessive
  else return .greedy

/-- Reads the rest of a repetition, after its sign, and applies it to the last node. -/
def repetition (sign : Char) (done : List Node) : Reading (List Node) := do
  let start := (← get).position - 1
  match ← counts? sign with
  | none => return .literal sign.toNat :: done
  | some (least, most?) =>
    match done with
    | [] => failAt start .nothingToRepeat
    | .place _ :: _ => failAt start .nothingToRepeat
    | .repeated _ _ _ _ :: _ => failAt start .multipleRepeat
    | _ => return repeatLast (← greed) least most? done

end Reading

end LineAudit.Pattern
