import LineAudit.Pattern.Letter

/-!
Searching a text for a pattern.

A node is tried at a place together with what has to follow it; the answer is the first way to go on
that reaches the end of the pattern. A group remembers where it was entered and left last. A
repetition makes its least number of rounds first; a further round is made only if the text has
moved on since the round before began, so that every repetition ends.
-/

namespace LineAudit.Pattern

/-- A place in a text, with the characters before it, nearest first, and after it. -/
structure Spot where
  position : Nat
  behind : List Char
  ahead : List Char
  deriving DecidableEq, Repr, Inhabited

def Spot.start (text : List Char) : Spot := ⟨0, [], text⟩

/-- The place so many characters back, if there is one. -/
def Spot.back? : Nat → Spot → Option Spot
  | 0, s => some s
  | n + 1, ⟨position, c :: behind, ahead⟩ => Spot.back? n ⟨position - 1, behind, c :: ahead⟩
  | _ + 1, ⟨_, [], _⟩ => none

/-- How far a search has come: its place, and where groups were entered and left last. -/
structure Trail where
  spot : Spot
  entered : List (Nat × Spot)
  left : List (Nat × Nat)
  deriving Inhabited

/-- What has to follow. -/
abbrev Goal := Trail → Option Trail

/-- A way to go on from a place toward a goal. -/
abbrev Attempt := Trail → Goal → Option Trail

namespace Trail

def begin (s : Spot) : Trail := ⟨s, [], []⟩

def assign {α : Type} (key : Nat) (value : α) : List (Nat × α) → List (Nat × α)
  | [] => [(key, value)]
  | (k, v) :: rest => if k = key then (key, value) :: rest else (k, v) :: assign key value rest

def enter (t : Trail) : Option Nat → Trail
  | none => t
  | some index => { t with entered := assign index t.spot t.entered }

def leave (t : Trail) : Option Nat → Trail
  | none => t
  | some index => { t with left := assign index t.spot.position t.left }

/-- The text that a group holds, if it has been entered and left. -/
def captured? (t : Trail) (index : Nat) : Option (List Char) :=
  match t.entered.lookup index, t.left.lookup index with
  | some first, some last =>
    if last < first.position then none else some (first.ahead.take (last - first.position))
  | _, _ => none

def step (test : Nat → Bool) (t : Trail) (k : Goal) : Option Trail :=
  match t.spot.ahead with
  | [] => none
  | c :: ahead =>
    if test c.toNat then
      k { t with spot := ⟨t.spot.position + 1, c :: t.spot.behind, ahead⟩ }
    else none

def stepAll (flags : Flags) : List Char → Attempt
  | [], t, k => k t
  | c :: rest, t, k => t.step (alike flags c.toNat) fun t => stepAll flags rest t k

end Trail

/-- Whether a condition holds at a place. A text without characters has no boundaries, and none of
its places counts as not being one. -/
def Place.holds (flags : Flags) (p : Place) (s : Spot) : Bool :=
  let multiline := flags.contains .multiline
  let word := fun (c : Char) => Category.word.has (flags.contains .unicode) c.toNat
  let isEmpty := s.behind.isEmpty && s.ahead.isEmpty
  let before := (s.behind.head?.map word).getD false
  let after := (s.ahead.head?.map word).getD false
  match p with
  | .start => s.behind.isEmpty || multiline && s.behind.head? = some '\n'
  | .textStart => s.behind.isEmpty
  | .stop =>
    s.ahead.isEmpty || s.ahead = ['\n'] || multiline && s.ahead.head? = some '\n'
  | .textStop => s.ahead.isEmpty
  | .boundary => !isEmpty && before != after
  | .nonBoundary => !isEmpty && before == after

def rounds (body : Attempt) : Nat → Attempt
  | 0, t, k => k t
  | n + 1, t, k => body t fun t => rounds body n t k

/-- A further round may be made: the bound is not reached, and the text has moved on since the round
before began at `last?`. -/
def mayRepeat (most? last? : Option Nat) (t : Trail) : Bool :=
  most? != some 0 && last? != some t.spot.position

/-- As many further rounds as possible, at most `fuel`. -/
def manyRounds (body : Attempt) : Nat → (most? last? : Option Nat) → Attempt
  | 0, _, _, t, k => k t
  | fuel + 1, most?, last?, t, k =>
    if mayRepeat most? last? t then
      match body t fun t' =>
          manyRounds body fuel (most?.map (· - 1)) (some t.spot.position) t' k with
      | some found => some found
      | none => k t
    else k t

/-- As few further rounds as possible, at most `fuel`. -/
def fewRounds (body : Attempt) : Nat → (most? last? : Option Nat) → Attempt
  | 0, _, _, t, k => k t
  | fuel + 1, most?, last?, t, k =>
    match k t with
    | some found => some found
    | none =>
      if mayRepeat most? last? t then
        body t fun t' => fewRounds body fuel (most?.map (· - 1)) (some t.spot.position) t' k
      else none

/-- Further rounds while they succeed, each in its first way alone. -/
def allRounds (body : Attempt) : Nat → (most? last? : Option Nat) → Trail → Trail
  | 0, _, _, t => t
  | fuel + 1, most?, last?, t =>
    if mayRepeat most? last? t then
      match body t some with
      | some t' => allRounds body fuel (most?.map (· - 1)) (some t.spot.position) t'
      | none => t
    else t

/-- So many rounds in a row, each in its first way alone. -/
def firmRounds (body : Attempt) : Nat → Trail → Option Trail
  | 0, t => some t
  | n + 1, t =>
    match body t some with
    | some t => firmRounds body n t
    | none => none

/-- A repetition. Every further round but the last takes a character, which bounds their number. -/
def repeatRounds (greed : Greed) (least : Nat) (most? : Option Nat) (body : Attempt) : Attempt :=
  fun t k =>
    let more? := most?.map (· - least)
    match greed with
    | .greedy =>
      rounds body least t fun t => manyRounds body (t.spot.ahead.length + 2) more? none t k
    | .lazy =>
      rounds body least t fun t => fewRounds body (t.spot.ahead.length + 2) more? none t k
    | .possessive =>
      match firmRounds body least t with
      | some t => k (allRounds body (t.spot.ahead.length + 2) more? none t)
      | none => none

mutual

def matchNode : Node → Flags → Attempt
  | .any, flags, t, k => t.step (fun n => n != 10 || flags.contains .dotAll) k
  | .literal m, flags, t, k => t.step (admitsLiteral flags m) k
  | .notLiteral m, flags, t, k => t.step (fun n => !admitsLiteral flags m n) k
  | .set negated items, flags, t, k => t.step (admitsSet flags negated items) k
  | .place p, flags, t, k => if p.holds flags t.spot then k t else none
  | .branch alternatives, flags, t, k => matchAny alternatives flags t k
  | .group index? add del body, flags, t, k =>
    matchAll body (flags.within add del) (t.enter index?) fun t => k (t.leave index?)
  | .atomic body, flags, t, k =>
    match matchAll body flags t some with
    | some t => k t
    | none => none
  | .repeated greed least most? body, flags, t, k =>
    repeatRounds greed least most? (matchAll body flags) t k
  | .look behind? negated body, flags, t, k =>
    let found :=
      match behind? with
      | none => matchAll body flags t some
      | some width =>
        match t.spot.back? width.least with
        | some spot => matchAll body flags { t with spot } some
        | none => none
    match found, negated with
    | some t', false => k { t' with spot := t.spot }
    | none, true => k t
    | _, _ => none
  | .reference index, flags, t, k =>
    match t.captured? index with
    | some text => Trail.stepAll flags text t k
    | none => none
  | .condition index yes none, flags, t, k =>
    if (t.captured? index).isSome then matchAll yes flags t k else k t
  | .condition index yes (some no), flags, t, k =>
    if (t.captured? index).isSome then matchAll yes flags t k else matchAll no flags t k

def matchAll : List Node → Flags → Attempt
  | [], _, t, k => k t
  | node :: rest, flags, t, k => matchNode node flags t fun t => matchAll rest flags t k

def matchAny : List (List Node) → Flags → Attempt
  | [], _, _, _ => none
  | body :: rest, flags, t, k =>
    match matchAll body flags t k with
    | some found => some found
    | none => matchAny rest flags t k

end

end LineAudit.Pattern
