import LineAudit.Proofs.Config.Setting
import LineAudit.Proofs.Text.Blank
import LineAudit.Scan.Engine
import Mathlib.Algebra.Order.GroupWithZero.Basic
import Mathlib.Algebra.Order.Ring.Int

/-!
The range of settings.

Numbers are refused when they compare badly with a bound, and what is not a number compares with
nothing. Main result: the numbers of a configuration are in range, except for a timeout that is
asked for as something that is not a number; that is the only spelling that gets through.
-/

namespace LineAudit

/-! ### Numbers above zero -/

namespace Binary64

lemma ofQuotient_ne_nan (negative : Bool) (num den : ℕ) : ofQuotient negative num den ≠ nan := by
  unfold ofQuotient
  split
  · simp
  · dsimp only
    split <;> split <;> simp

lemma ofDecimal_ne_nan (negative : Bool) (digits : ℕ) (power : Int) :
    ofDecimal negative digits power ≠ nan := by
  unfold ofDecimal
  dsimp only
  split_ifs <;> simp [ofQuotient_ne_nan]

lemma negate_eq_nan_iff (x : Binary64) : x.negate = nan ↔ x = nan := by
  cases x <;> simp [negate]

lemma quotient?_finite (s : Bool) (m : ℕ) (e : Int) :
    (finite s m e).quotient? =
      some ((if s then -(m : Int) else m) * twoTo e.toNat, (-e).toNat) := by
  rw [quotient?]
  by_cases he : 0 ≤ e
  · have hneg : (-e).toNat = 0 := by omega
    simp only [he, if_true, hneg]
  · have hpos : e.toNat = 0 := by omega
    simp [he, hpos, twoTo]

/-- A number is told to be positive exactly when it lies above zero in the order by value. -/
lemma less_zero (x : Binary64) : zero.less x = x.isPositive := by
  have hpow (k : ℕ) : (0 : Int) < twoTo k := by exact_mod_cast Nat.pow_pos (by decide)
  cases x with
  | nan => rfl
  | infinite s => rfl
  | finite s m e =>
    have hless : zero.less (finite s m e) =
        decide ((0 : Int) < (if s then -(m : Int) else m) * twoTo e.toNat *
          twoTo (-leastExponent).toNat) := by
      rw [zero, less.eq_def]
      simp only [quotient?_finite, Bool.false_eq_true, if_false, Nat.cast_zero, zero_mul]
    rw [hless, isPositive, Bool.eq_iff_iff, decide_eq_true_iff, mul_pos_iff_of_pos_right (hpow _),
      mul_pos_iff_of_pos_right (hpow _)]
    cases s
    · simp [Nat.pos_iff_ne_zero]
    · simp

end Binary64

namespace Number

/-- A number lies above zero. -/
def IsAboveZero : Number → Prop
  | int n => 0 < n
  | float x => Binary64.zero.less x = true

/-- Besides the numbers above zero, what is not a number is not told to be zero or below either. -/
lemma isAtMostZero_eq_false_iff {x : Number} :
    x.isAtMostZero = false ↔ x = .float .nan ∨ x.IsAboveZero := by
  cases x with
  | int n => simp [isAtMostZero, IsAboveZero]
  | float x =>
    rw [IsAboveZero, Binary64.less_zero]
    cases x <;> simp [isAtMostZero, Binary64.isNan]

/-! ### Spellings -/

/-- A text spells what is not a number: three letters in capitals or not, with a sign or without,
and white space around them. -/
def SpellsNan (s : String) : Prop :=
  ∃ sign word, Text.trimBlanks s.toList = sign ++ word ∧ sign ∈ [[], ['+'], ['-']] ∧
    word.map Char.toLower = ['n', 'a', 'n']

lemma exists_sign (cs : List Char) :
    ∃ sign ∈ [[], ['+'], ['-']], cs = sign ++ (splitSign cs).2 := by
  unfold splitSign
  split
  · exact ⟨['-'], by simp, rfl⟩
  · exact ⟨['+'], by simp, rfl⟩
  · exact ⟨[], by simp, rfl⟩

lemma splitSign_append {sign word : List Char} (hsign : sign ∈ [[], ['+'], ['-']])
    (hplus : word.head? ≠ some '+') (hminus : word.head? ≠ some '-') :
    (splitSign (sign ++ word)).2 = word := by
  simp only [List.mem_cons, List.not_mem_nil, or_false] at hsign
  rcases hsign with rfl | rfl | rfl
  · cases word with
    | nil => rfl
    | cons c rest =>
      have hc : c ≠ '+' := fun h => hplus (by rw [h]; rfl)
      have hc' : c ≠ '-' := fun h => hminus (by rw [h]; rfl)
      simp [splitSign, hc, hc']
  · rfl
  · rfl

lemma nonFinite?_eq_nan_iff (cs : List Char) :
    nonFinite? cs = some .nan ↔ cs.map Char.toLower = ['n', 'a', 'n'] := by
  have hword : String.ofList (cs.map Char.toLower) = "nan" ↔
      cs.map Char.toLower = ['n', 'a', 'n'] := by
    rw [← String.toList_inj, String.toList_ofList]
    rfl
  rw [← hword]
  unfold nonFinite?
  dsimp only
  split_ifs with h h' <;> simp [h]

lemma head?_ne_of_toLower {word : List Char} (h : word.map Char.toLower = ['n', 'a', 'n'])
    {c : Char} (hc : c.toLower ≠ 'n') : word.head? ≠ some c := by
  cases word with
  | nil => simp
  | cons d rest =>
    rintro hd
    obtain rfl := Option.some.inj hd
    exact hc (List.cons.inj h).1

/-- A text is read as what is not a number only when it spells that. -/
lemma readFloat?_eq_nan_iff (s : String) : readFloat? s = some .nan ↔ SpellsNan s := by
  unfold readFloat? SpellsNan
  dsimp only
  constructor
  · intro h
    split at h
    next x hx =>
      have hnan : x = .nan := by
        split at h
        · exact (Binary64.negate_eq_nan_iff x).mp (Option.some.inj h)
        · exact Option.some.inj h
      obtain ⟨sign, hmem, hsplit⟩ := exists_sign (Text.trimBlanks s.toList)
      exact ⟨sign, _, hsplit, hmem, (nonFinite?_eq_nan_iff _).mp (hnan ▸ hx)⟩
    next =>
      split at h
      next =>
        split at h
        · cases h
        · exact absurd (Option.some.inj h) (Binary64.ofDecimal_ne_nan _ _ _)
      next => cases h
  · rintro ⟨sign, word, hsplit, hmem, hword⟩
    have hbody := splitSign_append hmem (head?_ne_of_toLower hword (c := '+') (by decide))
      (head?_ne_of_toLower hword (c := '-') (by decide))
    rw [hsplit, hbody, (nonFinite?_eq_nan_iff word).mpr hword]
    simp [Binary64.negate]

lemma spellsNan_strip (s : String) : SpellsNan (Text.strip s) ↔ SpellsNan s := by
  rw [SpellsNan, Text.strip, String.toList_ofList, Text.trimBlanks_trimBlanks]
  rfl

end Number

namespace Config

variable {given : Explicit} {env : Environment} {c : Config}

/-- The timeout is asked for as something that is not a number. -/
def AsksForNan (given : Explicit) (env : Environment) : Prop :=
  given.timeout? = some (.float .nan) ∨
    given.timeout? = none ∧ ∃ raw, env timeoutVariable = some raw ∧ Number.SpellsNan raw

/-- There is a number in a variable when the text in it is no white space alone and can be read. -/
lemma variableNumber_eq_some_iff {α : Type} {read? : String → Option α} {name : String} {n : α} :
    variableNumber read? name env = .ok (some n) ↔ ∃ raw, env name = some raw ∧
      Text.isAllBlank raw = false ∧ read? (Text.strip raw) = some n := by
  unfold variableNumber
  cases env name with
  | none => simp
  | some raw =>
    cases hblank : Text.isAllBlank raw with
    | true => simp [hblank]
    | false => cases hread : read? (Text.strip raw) <;> simp [hblank, hread]

lemma timeout_eq_nan_iff :
    resolveNumber pointNumber? given.timeout? timeoutVariable env = .ok (some (.float .nan)) ↔
      AsksForNan given env := by
  unfold AsksForNan resolveNumber
  cases given.timeout? with
  | some x => simp
  | none =>
    have hread (raw : String) : (Text.isAllBlank raw = false ∧
        pointNumber? (Text.strip raw) = some (.float .nan)) ↔ Number.SpellsNan raw := by
      rw [← Number.spellsNan_strip, ← Number.readFloat?_eq_nan_iff, pointNumber?]
      constructor
      · rintro ⟨-, h⟩
        simpa using h
      · intro h
        refine ⟨?_, by simp [h]⟩
        by_contra hblank
        have hempty : Text.strip raw = "" := by
          rw [← String.isEmpty_iff, Text.strip_isEmpty]
          simpa using hblank
        rw [hempty] at h
        cases h
    simp [variableNumber_eq_some_iff, hread]

/-- **The numbers of a configuration are in range**, except for a timeout that is asked for as
something that is not a number, and which then is not one. Whatever the timeout, an engine can be
made with the limits of a configuration. -/
theorem resolve_inRange (h : resolve given env = .ok c) :
    (∀ n, c.maxLines? = some n → 0 ≤ n) ∧
    (∀ x, c.timeout? = some x → x.IsAboveZero ∨ x = .float .nan) ∧
    (c.timeout? = some (.float .nan) ↔ AsksForNan given env) ∧
    1 ≤ c.workers ∧
    ∃ e, Engine.make? c.maxLines? c.timeout? c.workers = some e := by
  obtain ⟨-, -, -, htime, -, hrange⟩ := resolve_eq_ok_iff.mp h
  refine ⟨hrange.maxLines, fun x hx => ?_, ?_, hrange.workers, ?_⟩
  · exact (Number.isAtMostZero_eq_false_iff.mp (hrange.timeout x hx)).symm
  · rw [← timeout_eq_nan_iff, htime, Except.ok.injEq]
  · exact ⟨_, by rw [Engine.make?, dif_pos hrange.workers]⟩

/-- An environment with numbers in digits of several scripts. -/
def foreignDigits : Environment :=
  environmentOf [(maxLinesVariable, "٢_٠"), (timeoutVariable, " +25e-1 "), (workersVariable, "４")]

/-- Nothing given explicitly. -/
def nothingGiven : Explicit := ⟨none, none, none, none, none⟩

theorem resolve_inRange_foreignDigits : ∃ c, resolve nothingGiven foreignDigits = .ok c ∧
    ¬ AsksForNan nothingGiven foreignDigits ∧
    (∃ n, c.maxLines? = some n ∧ 0 ≤ n) ∧ (∃ x, c.timeout? = some x ∧ x.IsAboveZero) ∧
    1 ≤ c.workers ∧ ∃ e, Engine.make? c.maxLines? c.timeout? c.workers = some e := by
  have h : resolve nothingGiven foreignDigits =
      .ok ⟨none, .high, some 20, some (.float (.finite false 5629499534213120 (-51))), 4⟩ := by
    decide +kernel
  obtain ⟨hlines, htime, hnan, hworkers, hengine⟩ := resolve_inRange h
  refine ⟨_, h, ?_, ⟨_, rfl, hlines _ rfl⟩, ⟨_, rfl, ?_⟩, hworkers, hengine⟩
  · rw [← hnan]
    simp
  · exact (htime _ rfl).resolve_right (by simp)

/-- An environment with a timeout that is not a number. -/
def nanTimeout : Environment := environmentOf [(timeoutVariable, "nan")]

/-- Such a timeout gets through, and does not lie above zero. -/
theorem not_inRange_nanTimeout : ∃ c x, resolve nothingGiven nanTimeout = .ok c ∧
    c.timeout? = some x ∧ ¬ x.IsAboveZero :=
  ⟨⟨none, .high, none, some (.float .nan), 1⟩, .float .nan, rfl, rfl, Bool.false_ne_true⟩

end Config

end LineAudit
