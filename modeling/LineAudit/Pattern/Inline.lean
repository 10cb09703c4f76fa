import LineAudit.Pattern.Cursor
import LineAudit.Text.Alphabetic

/-!
Flags written inside a pattern, as in `(?i)`, which holds for the whole pattern, and `(?i-s:…)`,
which turns flags on and off for a group.
-/

namespace LineAudit.Pattern.Reading

/-- Refuses a piece that stands where a flag or the end of the flags must stand. -/
def failFlag {α : Type} (piece : List Char) (otherwise : Fault) : Reading α :=
  failBack piece.length (if piece.all Text.isLetter then .unknownFlag else otherwise)

/-- Reads the flags turned on, from a flag that has been read, up to the character after them. -/
def flagsOn (flag : Flag) (acc : Flags) : Nat → Reading (Flags × Char)
  | 0 => fail .missingFlagEnd
  | fuel + 1 => do
    if flag = .locale then fail .localeFlag
    let acc := acc ++ [flag]
    if flag.isAlphabet && acc.any fun f => f.isAlphabet && f != flag then fail .alphabetsTogether
    match ← take with
    | [] => fail .missingFlagEnd
    | [c] =>
      if c = ')' ∨ c = '-' ∨ c = ':' then return (acc, c)
      else match Flag.ofLetter? c with
        | some flag => flagsOn flag acc fuel
        | none => failFlag [c] .missingFlagEnd
    | piece => failFlag piece .missingFlagEnd

/-- Reads the flags turned off, from a flag that has been read, up to the colon after them. -/
def flagsOff (flag : Flag) (acc : Flags) : Nat → Reading Flags
  | 0 => fail .missingColon
  | fuel + 1 => do
    if flag.isAlphabet then fail .alphabetTurnedOff
    let acc := acc ++ [flag]
    match ← take with
    | [] => fail .missingColon
    | [':'] => return acc
    | [c] =>
      match Flag.ofLetter? c with
      | some flag => flagsOff flag acc fuel
      | none => failFlag [c] .missingColon
    | piece => failFlag piece .missingColon

def flagsAfterHyphen (fuel : Nat) : Reading Flags := do
  match ← take with
  | [] => fail .missingFlag
  | [c] =>
    match Flag.ofLetter? c with
    | some flag => flagsOff flag [] fuel
    | none => failFlag [c] .missingFlag
  | piece => failFlag piece .missingFlag

/-- Reads flags from their first one on, or from a hyphen when there is none. The answer is the
flags turned on and off for a group, or nothing when they hold for the whole pattern. -/
def inlineFlags (first? : Option Flag) : Reading (Option (Flags × Flags)) := do
  let fuel := (← get).rest.length + 1
  let (add, closing) ← match first? with
    | some flag => flagsOn flag [] fuel
    | none => pure ([], '-')
  if closing = ')' then
    modify fun s => { s with flags := s.flags ++ add }
    return none
  if add.any Flag.isGlobal then failBack 1 .globalTurnedOn
  let del ← if closing = '-' then flagsAfterHyphen fuel else pure []
  if del.any Flag.isGlobal then failBack 1 .globalTurnedOff
  if add.any del.contains then failBack 1 .onAndOff
  return some (add, del)

end LineAudit.Pattern.Reading
