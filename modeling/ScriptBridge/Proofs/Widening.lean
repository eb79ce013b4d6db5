/-
This file says what conversions between numeric kinds keep. A number, if it is not a NaN,
is a rational number or an infinity; a conversion between equal kinds, to a wider kind of
integers, to the decimals, or from the narrower binary format to the wider one, succeeds
for every number and gives the same one. An integer in a binary format is the nearest
one of the digits that the format keeps: the same exactly if its last digits, beyond
those, are zeros. So the conversion of a whole kind of integers to a binary format, which
counts as a widening, loses something exactly if the kind has more digits than the format
keeps; and no narrowing between kinds of integers takes every integer.
-/

import Mathlib.Algebra.Order.Field.Rat
import Mathlib.Tactic.FieldSimp
import ScriptBridge.Proofs.Exactness
import ScriptBridge.Proofs.Rounding

namespace ScriptBridge

open Host Conversion

namespace Number

/-! ### What numbers are -/

/-- What a number is, if it is not a NaN. -/
inductive Quantity
  | finite (value : ℚ)
  | infinite (negative : Bool)

/-- A binary number is so many units, or infinite. -/
def Binary.quantity? {format : Format} (number : Binary format) : Option Quantity :=
  if number.isNaN then none
  else if number.isInfinite then some (.infinite number.negative)
  else some (.finite (number.signedUnits / 2 ^ format.unitShift))

end Number

open Number

/-- What a number of the host side is. -/
def Host.Value.quantity? : Value → Option Quantity
  | .integer number => some (.finite number.value)
  | .single number => number.quantity?
  | .double number => number.quantity?
  | .decimal number => some (.finite (number.signedMantissa / 10 ^ number.scale))
  | _ => none

namespace Number

/-- The format of a binary kind. -/
def Kind.format? : Kind → Option Format
  | .single => some .single
  | .double => some .double
  | _ => none

/-- The digits of the integers of a kind, without the sign. -/
def Kind.digits (kind : Kind) : Nat := if kind.isSigned then kind.bits - 1 else kind.bits

/-! ### Binary numbers -/

namespace Binary

variable {format : Format} {value : Int}

theorem quantity?_of_finite {number : Binary format} (finite : number.isFinite = true) :
    number.quantity? = some (.finite (number.signedUnits / 2 ^ format.unitShift)) := by
  have below : number.magnitude < format.infinity := of_decide_eq_true finite
  have proper : number.isNaN = false := decide_eq_false (Nat.not_lt_of_lt below)
  have bounded : number.isInfinite = false := beq_eq_false_iff_ne.mpr (Nat.ne_of_lt below)
  unfold quantity?
  rw [proper, bounded, if_neg Bool.false_ne_true, if_neg Bool.false_ne_true]

/-- A format has the nearest integer for an integer. -/
theorem quantity?_ofInt (finite : (ofInt format value).isFinite = true) :
    (ofInt format value).quantity? = some (.finite (nearest format value)) := by
  have units : (ofInt format value).signedUnits = nearest format value * 2 ^ format.unitShift := by
    unfold signedUnits nearest
    rw [units_ofInt finite, negative_ofInt]
    push_cast
    by_cases negative : value < 0
    · rw [if_pos (decide_eq_true negative), if_pos negative, Int.neg_mul]
    · rw [decide_eq_false negative, if_neg negative]
      rfl
  rw [quantity?_of_finite finite, units]
  push_cast
  rw [mul_div_cancel_right₀ _ (pow_ne_zero _ two_ne_zero)]

end Binary

/-- The narrower format has the same numbers as the wider one. -/
theorem Single.quantity?_toDouble {number : Single} (proper : number.isNaN = false) :
    (Single.toDouble number).quantity? = number.quantity? := by
  cases bounded : number.isInfinite with
  | true =>
    unfold Single.toDouble Binary.quantity?
    rw [proper, bounded, if_neg Bool.false_ne_true, if_pos rfl]
    rfl
  | false =>
    have finite : number.isFinite = true := by
      have within : number.magnitude ≤ Format.single.infinity :=
        Nat.le_of_not_lt (of_decide_eq_false proper)
      exact decide_eq_true (Nat.lt_of_le_of_ne within (beq_eq_false_iff_ne.mp bounded))
    obtain ⟨units, negative, finiteDouble⟩ := Single.units_toDouble finite
    have signed : (Single.toDouble number).signedUnits =
        number.signedUnits * 2 ^ Format.widening := by
      unfold Binary.signedUnits
      rw [units, negative]
      push_cast
      split
      · rw [Int.neg_mul]
      · rfl
    rw [Binary.quantity?_of_finite finite, Binary.quantity?_of_finite finiteDouble, signed,
      Format.unitShift_double, pow_add]
    push_cast
    rw [mul_comm (number.signedUnits : ℚ), mul_div_mul_left _ _ (pow_ne_zero _ two_ne_zero)]

/-! ### Digits of integers -/

variable {kind : Kind} {value : Int} {format : Format}

theorem range?_eq (integral : kind.isIntegral = true) :
    kind.range? = some (if kind.isSigned then -2 ^ kind.digits else 0, 2 ^ kind.digits - 1) := by
  cases kind <;> first | rfl | cases integral

theorem contains_iff (integral : kind.isIntegral = true) :
    kind.contains value = true ↔
      (if kind.isSigned then -2 ^ kind.digits else 0) ≤ value ∧ value ≤ 2 ^ kind.digits - 1 := by
  unfold Kind.contains
  rw [range?_eq integral]
  dsimp only
  rw [Bool.and_eq_true, decide_eq_true_eq, decide_eq_true_eq]

/-- The integers of a kind have no more digits than it, but for the least one, a power of two. -/
theorem natAbs_le_of_contains (integral : kind.isIntegral = true)
    (held : kind.contains value = true) : value.natAbs ≤ 2 ^ kind.digits := by
  obtain ⟨least, greatest⟩ := (contains_iff integral).mp held
  have power : ((2 ^ kind.digits : Nat) : Int) = 2 ^ kind.digits := Int.natCast_pow 2 kind.digits
  split at least <;> omega

theorem digits_le (integral : kind.isIntegral = true) : kind.digits ≤ 64 := by
  cases kind <;> first | decide | cases integral

/-- An integer is the nearest one of so few digits if its last digits are zeros. -/
theorem nearest_eq_iff :
    nearest format value = value ↔
      2 ^ (value.natAbs.log2 - format.fractionBits) ∣ value.natAbs := by
  have sizes : nearest format value = value ↔ nearestSize format value.natAbs = value.natAbs := by
    constructor
    · intro same
      rw [← natAbs_nearest, same]
    · intro same
      unfold nearest
      rw [same]
      split <;> omega
  rw [sizes]
  generalize value.natAbs = size
  constructor
  · intro same
    have multiple : 2 ^ (size.log2 - format.fractionBits) ∣ nearestSize format size :=
      Nat.dvd_mul_left _ _
    rwa [same] at multiple
  · rintro ⟨quotient, split⟩
    have kept := roundHalfEven_mul quotient (Nat.two_pow_pos (size.log2 - format.fractionBits))
    rw [Nat.mul_comm, ← split] at kept
    unfold nearestSize
    dsimp only
    rw [kept, Nat.mul_comm]
    exact split.symm

/-- An integer that needs more digits than a format keeps. -/
def tooLong (format : Format) : Int := 2 ^ (format.fractionBits + 1) + 1

theorem nearest_tooLong_ne : nearest format (tooLong format) ≠ tooLong format := by
  have size : (tooLong format).natAbs = 2 ^ (format.fractionBits + 1) + 1 := by
    unfold tooLong
    rw [show (2 ^ (format.fractionBits + 1) + 1 : Int) =
      ((2 ^ (format.fractionBits + 1) + 1 : Nat) : Int) by push_cast; rfl, Int.natAbs_natCast]
  have leading : (2 ^ (format.fractionBits + 1) + 1).log2 = format.fractionBits + 1 := by
    rw [Nat.log2_eq_iff (Nat.succ_ne_zero _), Nat.pow_succ 2 (format.fractionBits + 1)]
    have := Nat.one_lt_two_pow (Nat.succ_ne_zero format.fractionBits)
    omega
  rw [Ne, nearest_eq_iff, size, leading, Nat.add_sub_cancel_left, Nat.pow_one, Nat.pow_succ]
  omega

theorem contains_tooLong (integral : kind.isIntegral = true)
    (long : format.fractionBits + 1 < kind.digits) : kind.contains (tooLong format) = true := by
  have positive : (0 : Int) < 2 ^ format.fractionBits := pow_pos two_pos _
  have room : (2 : Int) ^ (format.fractionBits + 1 + 1) ≤ 2 ^ kind.digits :=
    pow_le_pow_right₀ one_le_two long
  have doubled : (2 : Int) ^ (format.fractionBits + 1) = 2 ^ format.fractionBits * 2 := pow_succ ..
  rw [pow_succ] at room
  unfold tooLong
  rw [contains_iff integral]
  split <;> omega

end Number

/-! ### Conversions -/

namespace Conversion

variable {source target kind : Kind} {format : Format}

/-- A kind of integers within another one has no integer that the other one has not. -/
theorem contains_of_isSubset (subset : source.isSubset target = true) {value : Int}
    (held : source.contains value = true) : target.contains value = true := by
  unfold Kind.isSubset at subset
  unfold Kind.contains at held ⊢
  split at subset
  · next least greatest otherLeast otherGreatest sourceRange targetRange =>
    rw [sourceRange] at held
    rw [targetRange]
    simp only [Bool.and_eq_true, decide_eq_true_eq] at subset held ⊢
    omega
  · cases subset

/-- Where the first kind is not within the second, its least or its greatest integer is not. -/
theorem exists_contains_of_not_isSubset (integral : source.isIntegral = true)
    (targetIntegral : target.isIntegral = true) (beyond : source.isSubset target = false) :
    ∃ value, source.contains value = true ∧ target.contains value = false := by
  have positive (kind : Kind) : (0 : Int) < 2 ^ kind.digits := pow_pos two_pos _
  have ordered : (if source.isSigned then -2 ^ source.digits else 0) ≤
      (2 ^ source.digits - 1 : Int) := by
    have := positive source
    split <;> omega
  unfold Kind.isSubset at beyond
  rw [range?_eq integral, range?_eq targetIntegral] at beyond
  rcases Bool.and_eq_false_iff.mp beyond with least | greatest
  · refine ⟨_, (contains_iff integral).mpr ⟨Int.le_refl _, ordered⟩, Bool.eq_false_iff.mpr ?_⟩
    rw [Ne, contains_iff targetIntegral]
    exact fun held => of_decide_eq_false least held.1
  · refine ⟨_, (contains_iff integral).mpr ⟨ordered, Int.le_refl _⟩, Bool.eq_false_iff.mpr ?_⟩
    rw [Ne, contains_iff targetIntegral]
    exact fun held => of_decide_eq_false greatest held.2

/-! ### Conversions that count as exact or widening -/

/-- The pairs of kinds that count as exact or as a widening: equal kinds, integers within other
integers, integers and numbers of other kinds, and the two binary formats. -/
inductive Widens : Kind → Kind → Prop
  | same (kind : Kind) : Widens kind kind
  | within {source target : Kind} (integral : source.isIntegral = true)
      (targetIntegral : target.isIntegral = true) (subset : source.isSubset target = true) :
      Widens source target
  | fractional {source target : Kind} (integral : source.isIntegral = true)
      (fractional : target.isIntegral = false) : Widens source target
  | binary : Widens .single .double

theorem widens_of_rule (rule : numericRule source target = .exact ∨
    numericRule source target = .widening) : Widens source target := by
  unfold numericRule at rule
  by_cases same : source = target
  · rw [same]
    exact .same target
  rw [if_neg (mt beq_iff_eq.mp same)] at rule
  -- From here the rule looks only at whether the kinds are integral, until both are fractional.
  cases integral : source.isIntegral with
  | true =>
    cases targetIntegral : target.isIntegral with
    | true =>
      rw [integral, targetIntegral] at rule
      cases subset : source.isSubset target with
      | true => exact .within integral targetIntegral subset
      | false =>
        rw [subset] at rule
        rcases rule with impossible | impossible <;> cases impossible
    | false => exact .fractional integral targetIntegral
  | false =>
    cases targetIntegral : target.isIntegral with
    | true =>
      rw [integral, targetIntegral] at rule
      rcases rule with impossible | impossible <;> cases impossible
    | false =>
      rw [integral, targetIntegral] at rule
      cases source <;> cases target <;>
        first
        | exact .binary
        | (rcases rule with impossible | impossible <;> cases impossible)

/-- A conversion of a number to a kind comes to a number of the kind. -/
def Reaches (value : Value) (source target : Kind) (quantity : Quantity) : Prop :=
  ∃ converted, ofScalar value source target = .ok converted ∧
    converted.numericKind? = some target ∧ converted.quantity? = some quantity

theorem exists_integer (integral : source.isIntegral = true) {value : Value}
    (kind : value.numericKind? = some source) :
    ∃ integer : Integer, value = .integer integer ∧ integer.kind = source := by
  cases value with
  | integer integer => exact ⟨integer, rfl, Option.some.inj kind⟩
  | single _ => cases kind; cases integral
  | double _ => cases kind; cases integral
  | decimal _ => cases kind; cases integral
  | _ => cases kind

/-- Within other integers, an integer is kept. -/
theorem reaches_of_isSubset (integer : Integer) (targetIntegral : target.isIntegral = true)
    (subset : integer.kind.isSubset target = true) :
    Reaches (.integer integer) integer.kind target (.finite integer.value) := by
  have held := contains_of_isSubset subset integer.held
  exact ⟨_, (ofScalar_isExact targetIntegral integer).inside held, rfl, rfl⟩

/-- A decimal keeps every integer. -/
theorem reaches_decimal (integer : Integer) :
    Reaches (.integer integer) integer.kind .decimal (.finite integer.value) := by
  have integral := isIntegral_kind integer
  have small : integer.value.natAbs < 2 ^ 96 :=
    (natAbs_le_of_contains integral integer.held).trans_lt
      (Nat.pow_lt_pow_right Nat.one_lt_two ((digits_le integral).trans_lt (by decide)))
  let decimal : Decimal := ⟨integer.value < 0, integer.value.natAbs, 0, small, by decide⟩
  have whole : Decimal.ofInt? integer.value = some decimal := dif_pos ⟨small, by decide⟩
  have mantissa : decimal.signedMantissa = integer.value := by
    unfold Decimal.signedMantissa
    by_cases negative : integer.value < 0
    · rw [if_pos (decide_eq_true negative)]
      exact (Int.eq_neg_natAbs_of_nonpos (Int.le_of_lt negative)).symm
    · rw [if_neg (by simpa only [decimal, decide_eq_true_eq] using negative)]
      exact Int.natAbs_of_nonneg (Int.not_lt.mp negative)
  refine ⟨.decimal decimal, ?_, rfl, ?_⟩
  · rw [ofScalar_integer]
    unfold ofInt Value.ofInt?
    rw [whole]
    rfl
  · unfold Value.quantity?
    dsimp only
    rw [mantissa]
    show some (Quantity.finite (integer.value / 10 ^ 0)) = _
    rw [pow_zero, div_one]

/-- A binary format has the nearest integer for every integer. -/
theorem reaches_binary (integer : Integer) (binary : target.format? = some format) :
    Reaches (.integer integer) integer.kind target (.finite (nearest format integer.value)) := by
  have integral := isIntegral_kind integer
  have bounded : integer.value.natAbs < 2 ^ 65 :=
    (natAbs_le_of_contains integral integer.held).trans_lt
      (Nat.pow_lt_pow_right Nat.one_lt_two ((digits_le integral).trans_lt (by decide)))
  unfold Reaches
  rw [ofScalar_integer]
  cases target with
  | single =>
    cases binary
    exact ⟨_, rfl, rfl, Binary.quantity?_ofInt (Binary.isFinite_ofInt (by decide) bounded)⟩
  | double =>
    cases binary
    exact ⟨_, rfl, rfl, Binary.quantity?_ofInt (Binary.isFinite_ofInt (by decide) bounded)⟩
  | _ => cases binary

/-- The wider format keeps every number of the narrower one. -/
theorem reaches_double {number : Single} {quantity : Quantity}
    (proper : number.quantity? = some quantity) :
    Reaches (.single number) .single .double quantity := by
  refine ⟨.double (Single.toDouble number), rfl, rfl, ?_⟩
  have real : number.isNaN = false := by
    cases nan : number.isNaN with
    | false => rfl
    | true =>
      unfold Binary.quantity? at proper
      rw [nan] at proper
      cases proper
  exact (Single.quantity?_toDouble real).trans proper

/-- What counts as exact or as a widening keeps every number, but for an integer in a binary
format. -/
theorem reaches_of_widens (widens : Widens source target) {value : Value} {quantity : Quantity}
    (kind : value.numericKind? = some source) (proper : value.quantity? = some quantity)
    (unrounded : source.isIntegral = true → target.format? = none) :
    Reaches value source target quantity := by
  cases widens with
  | same => exact ⟨value, if_pos (beq_self_eq_true _), kind, proper⟩
  | within integral targetIntegral subset =>
    obtain ⟨integer, rfl, rfl⟩ := exists_integer integral kind
    cases proper
    exact reaches_of_isSubset integer targetIntegral subset
  | fractional integral fractional =>
    obtain ⟨integer, rfl, rfl⟩ := exists_integer integral kind
    cases proper
    have formatless := unrounded integral
    cases target with
    | decimal => exact reaches_decimal integer
    | single => cases formatless
    | double => cases formatless
    | _ => cases fractional
  | binary =>
    cases value with
    | single number => exact reaches_double proper
    | integer integer =>
      have integral := isIntegral_kind integer
      rw [Option.some.inj kind] at integral
      cases integral
    | _ => cases kind

/-- Every number of the first kind is the same in the second. -/
def Lossless (source target : Kind) : Prop :=
  ∀ (value : Value) (quantity : Quantity), value.numericKind? = some source →
    value.quantity? = some quantity → Reaches value source target quantity

/-- A kind of integers is kept by a binary format exactly if it has no more digits. -/
theorem lossless_iff_of_binary (integral : source.isIntegral = true)
    (binary : target.format? = some format) :
    Lossless source target ↔ source.digits ≤ format.fractionBits + 1 := by
  constructor
  · intro lossless
    -- A longer kind has the first integer that the format rounds away.
    by_contra long
    have held := contains_tooLong integral (Nat.lt_of_not_le long)
    let integer : Integer := ⟨source, tooLong format, held⟩
    obtain ⟨one, made, -, same⟩ := lossless (.integer integer) _ rfl rfl
    obtain ⟨other, madeOther, -, rounded⟩ := reaches_binary integer binary
    have alike : one = other := Except.ok.inj (made.symm.trans madeOther)
    rw [← alike, same] at rounded
    have values := Quantity.finite.inj (Option.some.inj rounded)
    exact nearest_tooLong_ne (Int.cast_injective values).symm
  · intro short value quantity kind proper
    obtain ⟨integer, rfl, rfl⟩ := exists_integer integral kind
    cases proper
    have few : integer.value.natAbs ≤ 2 ^ (format.fractionBits + 1) :=
      (natAbs_le_of_contains integral integer.held).trans
        (Nat.pow_le_pow_right Nat.two_pos short)
    have reaches := reaches_binary integer binary
    rwa [nearest_of_le few] at reaches

/-- A narrowing between kinds of integers refuses one. -/
theorem exists_refused (integral : source.isIntegral = true)
    (targetIntegral : target.isIntegral = true)
    (narrows : numericRule source target = .narrowing) :
    ∃ integer : Integer, integer.kind = source ∧ ∃ text,
      ofScalar (.integer integer) source target = .error (.overflow text target.name) := by
  have beyond : source.isSubset target = false := by
    unfold numericRule at narrows
    rw [integral, targetIntegral] at narrows
    dsimp only at narrows
    split at narrows
    · cases narrows
    · split at narrows
      · cases narrows
      · next outside => exact Bool.eq_false_iff.mpr outside
  obtain ⟨value, held, refused⟩ := exists_contains_of_not_isSubset integral targetIntegral beyond
  exact ⟨⟨source, value, held⟩, rfl,
    (ofScalar_isExact targetIntegral ⟨source, value, held⟩).outside refused⟩

/-- A conversion that counts as exact or as a widening succeeds for every number and gives the same
one, except that an integer in a binary format becomes the nearest one of the digits that the format
keeps, which is the same exactly if the digits beyond are zeros. The whole kind is kept exactly if
it is not one of integers of more digits than the format of the other. A conversion between kinds of
integers that counts as a narrowing refuses some integer. -/
theorem widenings_round_long_integers (source target : Kind) :
    (numericRule source target = .exact ∨ numericRule source target = .widening →
      (∀ (value : Value) (quantity : Quantity), value.numericKind? = some source →
        value.quantity? = some quantity → (source.isIntegral = true → target.format? = none) →
        Reaches value source target quantity) ∧
      (∀ (integer : Integer) (format : Format), integer.kind = source →
        target.format? = some format →
        Reaches (.integer integer) source target (.finite (nearest format integer.value)) ∧
          (nearest format integer.value = integer.value ↔
            2 ^ (integer.value.natAbs.log2 - format.fractionBits) ∣ integer.value.natAbs)) ∧
      (Lossless source target ↔ ∀ format, source.isIntegral = true →
        target.format? = some format → source.digits ≤ format.fractionBits + 1)) ∧
    (source.isIntegral = true → target.isIntegral = true →
      numericRule source target = .narrowing →
      ∃ integer : Integer, integer.kind = source ∧ ∃ text,
        ofScalar (.integer integer) source target = .error (.overflow text target.name)) := by
  refine ⟨fun rule => ?_, exists_refused⟩
  have widens := widens_of_rule rule
  refine ⟨fun value quantity => reaches_of_widens widens, ?_, ?_, ?_⟩
  · rintro integer format rfl binary
    exact ⟨reaches_binary integer binary, nearest_eq_iff⟩
  · intro lossless format integral binary
    exact (lossless_iff_of_binary integral binary).mp lossless
  · intro short value quantity kind proper
    by_cases integral : source.isIntegral = true
    · cases binary : target.format? with
      | none => exact reaches_of_widens widens kind proper fun _ => binary
      | some format =>
        exact (lossless_iff_of_binary integral binary).mpr (short format integral binary) value
          quantity kind proper
    · exact reaches_of_widens widens kind proper fun whole => absurd whole integral

/-- Integers of 32 bits are kept by the wider binary format, and integers of 64 bits are not; some
of these are refused where 32 bits are asked for. -/
theorem widenings_round_long_integers_of_int64 :
    Lossless .int32 .double ∧ ¬ Lossless .int64 .double ∧
      ∃ integer : Integer, integer.kind = .int64 ∧ ∃ text,
        ofScalar (.integer integer) .int64 .int32 = .error (.overflow text Kind.int32.name) := by
  refine ⟨?_, fun lossless => ?_, (widenings_round_long_integers .int64 .int32).2 rfl rfl rfl⟩
  · refine ((widenings_round_long_integers .int32 .double).1 (.inr rfl)).2.2.mpr ?_
    rintro format - ⟨⟩
    decide
  · have short := ((widenings_round_long_integers .int64 .double).1 (.inr rfl)).2.2.mp lossless
      .double rfl rfl
    exact absurd short (by decide)

/-- A widening that loses the last digit of an integer. -/
theorem long_integer_is_rounded :
    let integer : Integer := ⟨.int64, 9007199254740993, by decide⟩
    numericRule .int64 .double = .widening ∧
      (Value.integer integer).quantity? = some (.finite 9007199254740993) ∧
      ∃ converted, ofScalar (.integer integer) .int64 .double = .ok converted ∧
        converted.quantity? = some (.finite 9007199254740992) := by
  intro integer
  have reaches : Reaches (.integer integer) .int64 .double
      (.finite (nearest Format.double integer.value)) := reaches_binary integer rfl
  have nearby : nearest Format.double integer.value = 9007199254740992 := by decide +kernel
  obtain ⟨converted, made, -, rounded⟩ := reaches
  rw [nearby] at rounded
  exact ⟨rfl, rfl, converted, made, rounded⟩

end Conversion

end ScriptBridge
