import LineAudit.Pattern.Escape

/-!
Character sets in brackets.
-/

namespace LineAudit.Pattern

/-- The node of a set; a set of one character is that character. -/
def setNode (negated : Bool) (items : List Item) : Node :=
  match items.eraseDups, negated with
  | [.char n], false => .literal n
  | [.char n], true => .notLiteral n
  | items, negated => .set negated items

namespace Reading

def setItem : List Char → Reading Item
  | ['\\', c] => setEscape ['\\', c] c
  | [c] => pure (.char c.toNat)
  | _ => pure (.char 0)

/-- The range between two members, which were written from the given pieces on. -/
def rangeItem (first last : List Char) (low high : Item) : Reading Item :=
  match low, high with
  | .char lo, .char hi => if hi < lo then bad else pure (.range lo hi)
  | _, _ => bad
where
  bad := failBack (first.length + 1 + last.length)
    (.badRange (String.ofList first) (String.ofList last))

/-- Reads the members of a set up to its closing bracket. The set started at `start`, and `acc`
holds the members before, last one first. -/
def setItems (start : Nat) (acc : List Item) : Nat → Reading (List Item)
  | 0 => failAt start .unterminatedSet
  | fuel + 1 => do
    let piece ← take
    if piece.isEmpty then failAt start .unterminatedSet
    else if piece = [']'] ∧ acc ≠ [] then return acc.reverse
    else
      let low ← setItem piece
      if ← accept '-' then
        let last ← take
        if last.isEmpty then failAt start .unterminatedSet
        else if last = [']'] then return (.char '-'.toNat :: low :: acc).reverse
        else
          let high ← setItem last
          setItems start ((← rangeItem piece last low high) :: acc) fuel
      else setItems start (low :: acc) fuel

/-- Reads a set, after its opening bracket. -/
def bracket : Reading Node := do
  let start := (← get).position - 1
  let negated ← accept '^'
  return setNode negated (← setItems start [] ((← get).rest.length + 1))

end Reading

end LineAudit.Pattern
