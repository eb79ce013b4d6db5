/-
This file shows that numbers lose nothing on the way to an integral kind but their
fraction. A binary number that the wider format holds is rounded to itself, so the
narrower format reaches the wider one exactly; dropping the fraction of a binary or
scaled number is its quotient toward zero; and the bits of two numbers of 128 bits
together are the bits of either.
-/

import Mathlib.Data.Int.Bitwise
import Mathlib.Tactic.Ring
import ScriptBridge.Binding.Helper

namespace ScriptBridge

namespace Number

/-! ### Rounding what is exact -/

/-- A whole quotient is rounded to itself. -/
theorem roundHalfEven_mul (quotient : Nat) {denominator : Nat} (positive : 0 < denominator) :
    roundHalfEven (quotient * denominator) denominator = quotient := by
  have zeroes : ((2 * 0 : Nat) == denominator) = false :=
    beq_eq_false_iff_ne.mpr (Nat.ne_of_lt positive)
  unfold roundHalfEven
  rw [Nat.mul_div_cancel _ positive, Nat.mul_mod_left]
  dsimp only
  rw [zeroes, decide_eq_false (Nat.not_lt_zero _)]
  rfl

namespace Binary

variable {format : Format}

/-- The size of a number is read off its magnitude: the digits that the fraction has room for, and
the binade that says where they stand. -/
theorem units_of_magnitude {number : Binary format} {binade significand : Nat}
    (reads : number.magnitude = binade * 2 ^ format.fractionBits + significand)
    (least : binade = 0 ∨ 2 ^ format.fractionBits ≤ significand)
    (greatest : significand < 2 ^ (format.fractionBits + 1)) :
    number.units = significand * 2 ^ binade := by
  unfold units
  by_cases least_le : 2 ^ format.fractionBits ≤ significand
  · obtain ⟨fraction, rfl⟩ := Nat.exists_eq_add_of_le least_le
    have room : fraction < 2 ^ format.fractionBits := by
      rw [Nat.pow_succ] at greatest
      omega
    have split : number.magnitude = fraction + (binade + 1) * 2 ^ format.fractionBits := by
      rw [reads, Nat.succ_mul]
      omega
    have large : ¬ number.magnitude < 2 ^ format.fractionBits := by
      rw [split, Nat.succ_mul]
      omega
    unfold step
    rw [if_neg large, split, Nat.add_mul_mod_self_right, Nat.mod_eq_of_lt room,
      Nat.add_mul_div_right _ _ (Nat.two_pow_pos _), Nat.div_eq_of_lt room, Nat.zero_add,
      Nat.add_sub_cancel]
  · obtain rfl := least.resolve_right least_le
    rw [Nat.zero_mul, Nat.zero_add] at reads
    rw [reads, if_pos (Nat.lt_of_not_le least_le), Nat.pow_zero, Nat.mul_one]

/-- The size of a number is a power of two times digits that the fraction has room for. -/
theorem units_eq_significand (number : Binary format) :
    ∃ significand, significand < 2 ^ (format.fractionBits + 1) ∧
      number.units = significand *
        2 ^ (number.magnitude / 2 ^ format.fractionBits - 1) := by
  have doubled : 2 ^ (format.fractionBits + 1) = 2 ^ format.fractionBits * 2 := Nat.pow_succ ..
  by_cases small : number.magnitude < 2 ^ format.fractionBits
  · refine ⟨number.magnitude, by omega, ?_⟩
    unfold units
    rw [if_pos small, Nat.div_eq_of_lt small, Nat.zero_sub, Nat.pow_zero, Nat.mul_one]
  · have fraction := Nat.mod_lt number.magnitude (Nat.two_pow_pos format.fractionBits)
    refine ⟨_, ?_, if_neg small⟩
    omega

/-- A quotient that is a whole number of units, none of them below the last digit that the format
keeps, is the size of the number it is rounded to. -/
theorem units_ofQuotient {numerator denominator size : Nat} (negative : Bool)
    (positive : 0 < denominator) (exact_ : numerator * 2 ^ format.unitShift = size * denominator)
    (divides : 2 ^ (size.log2 - format.fractionBits) ∣ size)
    (small : size.log2 - format.fractionBits + 3 ≤ 2 ^ format.exponentBits) :
    (ofQuotient format negative numerator denominator).units = size ∧
      (ofQuotient format negative numerator denominator).negative = negative ∧
        (ofQuotient format negative numerator denominator).isFinite = true := by
  obtain ⟨significand, split⟩ := divides
  generalize binadeEq : size.log2 - format.fractionBits = binade at split small
  have greatest : significand < 2 ^ (format.fractionBits + 1) := by
    have below : size < 2 ^ (format.fractionBits + 1 + binade) :=
      Nat.lt_of_lt_of_le Nat.lt_log2_self (Nat.pow_le_pow_right Nat.two_pos (by omega))
    rw [split, Nat.mul_comm, Nat.pow_add] at below
    exact Nat.lt_of_mul_lt_mul_right below
  have least : binade = 0 ∨ 2 ^ format.fractionBits ≤ significand := by
    refine (Nat.eq_zero_or_pos binade).imp_right fun raised => ?_
    have nonzero : size ≠ 0 := by
      rintro rfl
      rw [Nat.log2_zero, Nat.zero_sub] at binadeEq
      omega
    have above : 2 ^ (format.fractionBits + binade) ≤ size :=
      (Nat.pow_le_pow_right Nat.two_pos (by omega)).trans (Nat.log2_self_le nonzero)
    rw [split, Nat.pow_add, Nat.mul_comm] at above
    exact Nat.le_of_mul_le_mul_left above (Nat.two_pow_pos binade)
  have below : binade * 2 ^ format.fractionBits + significand < format.infinity := by
    have steps : (binade + 2) * 2 ^ format.fractionBits ≤
        (2 ^ format.exponentBits - 1) * 2 ^ format.fractionBits :=
      Nat.mul_le_mul_right _ (by omega)
    rw [Nat.add_mul] at steps
    rw [Nat.pow_succ] at greatest
    unfold Format.infinity
    omega
  have rounds : roundUnits format (numerator * 2 ^ format.unitShift) denominator =
      binade * 2 ^ format.fractionBits + significand := by
    have whole : size * denominator = significand * (denominator * 2 ^ binade) := by
      rw [split]
      ring
    unfold roundUnits
    dsimp only
    rw [exact_, Nat.mul_div_cancel _ positive, binadeEq, whole,
      roundHalfEven_mul _ (Nat.mul_pos positive (Nat.two_pow_pos binade)),
      Nat.min_eq_left (Nat.le_of_lt below)]
  have kept : ofQuotient format negative numerator denominator =
      ⟨negative, _, Nat.lt_trans below format.infinity_lt_magnitudes⟩ := by
    unfold ofQuotient ofMagnitude
    rw [rounds, dif_pos]
  rw [kept]
  refine ⟨?_, rfl, decide_eq_true below⟩
  rw [units_of_magnitude rfl least greatest, split, Nat.mul_comm]

end Binary

/-- The places between the smallest units of the two formats. -/
def Format.widening : Nat := Format.double.unitShift - Format.single.unitShift

theorem Format.widening_eq : Format.widening = 925 := by decide

theorem Format.unitShift_double :
    Format.double.unitShift = Format.widening + Format.single.unitShift := by decide

/-- A finite number of the narrower format has the same size in the wider one. -/
theorem Single.units_toDouble {number : Single} (finite : number.isFinite = true) :
    (Single.toDouble number).units = number.units * 2 ^ Format.widening ∧
      (Single.toDouble number).negative = number.negative ∧
        (Single.toDouble number).isFinite = true := by
  have below : number.magnitude < Format.single.infinity := of_decide_eq_true finite
  have proper : number.isNaN = false := decide_eq_false (Nat.not_lt_of_lt below)
  have bounded : number.isInfinite = false := beq_eq_false_iff_ne.mpr (Nat.ne_of_lt below)
  have reached : Single.toDouble number = .ofQuotient .double number.negative number.units
      (2 ^ Format.single.unitShift) := by
    unfold Single.toDouble
    rw [proper, bounded, if_neg Bool.false_ne_true, if_neg Bool.false_ne_true]
  have binades : number.magnitude / 2 ^ Format.single.fractionBits < 255 := by
    rw [Nat.div_lt_iff_lt_mul (Nat.two_pow_pos _)]
    exact below
  have places := Format.widening_eq
  obtain ⟨significand, room, split⟩ := number.units_eq_significand
  generalize binadeEq : number.magnitude / 2 ^ Format.single.fractionBits - 1 = binade at split
  have size : number.units * 2 ^ Format.widening =
      significand * 2 ^ (binade + Format.widening) := by
    rw [split, Nat.mul_assoc, ← Nat.pow_add]
  -- The narrower format keeps 24 digits, the wider one more than twice as many.
  have leading : (number.units * 2 ^ Format.widening).log2 ≤ 23 + (binade + Format.widening) := by
    rcases Nat.eq_zero_or_pos (number.units * 2 ^ Format.widening) with zero | positive
    · rw [zero, Nat.log2_zero]
      exact Nat.zero_le _
    · have above : number.units * 2 ^ Format.widening < 2 ^ (24 + (binade + Format.widening)) := by
        rw [size, Nat.pow_add 2 24]
        exact Nat.mul_lt_mul_of_pos_right room (Nat.two_pow_pos _)
      have := (Nat.log2_lt (Nat.ne_of_gt positive)).mpr above
      omega
  rw [reached]
  refine Binary.units_ofQuotient number.negative (Nat.two_pow_pos _) ?_ ?_ ?_
  · rw [Format.unitShift_double, Nat.pow_add, Nat.mul_assoc]
  · rw [size] at leading ⊢
    have step : (significand * 2 ^ (binade + Format.widening)).log2 - Format.double.fractionBits ≤
        binade + Format.widening := by
      show _ - 52 ≤ _
      omega
    exact (Nat.pow_dvd_pow 2 step).mul_left significand
  · show _ - 52 + 3 ≤ 2048
    omega

/-! ### Dropping fractions -/

/-- A binary number without its fraction is the quotient of its units toward zero. -/
theorem Binary.truncate_eq {format : Format} (number : Binary format) :
    number.truncate = number.signedUnits.tdiv (2 ^ format.unitShift) := by
  have divides : ((2 ^ format.unitShift : Nat) : Int) = 2 ^ format.unitShift :=
    Int.natCast_pow 2 format.unitShift
  unfold Binary.truncate Binary.signedUnits
  dsimp only
  rw [← divides]
  split
  · rw [Int.neg_tdiv, Int.ofNat_tdiv]
  · rw [Int.ofNat_tdiv]

/-- A decimal without its fraction is the quotient of its mantissa toward zero. -/
theorem Decimal.truncate_eq (decimal : Decimal) :
    decimal.truncate = decimal.signedMantissa.tdiv (10 ^ decimal.scale) := by
  have divides : ((10 ^ decimal.scale : Nat) : Int) = 10 ^ decimal.scale :=
    Int.natCast_pow 10 decimal.scale
  unfold Decimal.truncate Decimal.signedMantissa
  dsimp only
  rw [← divides]
  split
  · rw [Int.neg_tdiv, Int.ofNat_tdiv]
  · rw [Int.ofNat_tdiv]

/-- The wider format does not change what is left of a number without its fraction. -/
theorem Single.truncate_toDouble {number : Single} (finite : number.isFinite = true) :
    (Single.toDouble number).truncate = number.truncate := by
  obtain ⟨units, negative, -⟩ := Single.units_toDouble finite
  unfold Binary.truncate
  rw [units, negative, Format.unitShift_double, Nat.add_comm, Nat.pow_add,
    Nat.mul_div_mul_right _ _ (Nat.two_pow_pos _)]

end Number

/-! ### Bits of either -/

namespace Binding

/-- The bits of an integer in two's complement are its own, as far as they go. -/
theorem getLsbD_ofInt (width : Nat) (value : Int) (place : Nat) :
    (BitVec.ofInt width value).getLsbD place = (decide (place < width) && value.testBit place) := by
  cases value with
  | ofNat value => exact BitVec.getLsbD_ofNat width value place
  | negSucc value =>
    rw [BitVec.ofInt_negSucc_eq_not_ofNat, BitVec.getLsbD_not, BitVec.getLsbD_ofNat]
    show (decide (place < width) && !(decide (place < width) && value.testBit place)) =
      (decide (place < width) && !value.testBit place)
    cases decide (place < width) <;> rfl

theorem ofInt_lor (width : Nat) (left right : Int) :
    BitVec.ofInt width left ||| BitVec.ofInt width right =
      BitVec.ofInt width (Int.lor left right) := by
  refine BitVec.eq_of_getLsbD_eq fun place _ => ?_
  rw [BitVec.getLsbD_or, getLsbD_ofInt, getLsbD_ofInt, getLsbD_ofInt, Int.testBit_lor,
    Bool.and_or_distrib_left]

/-- Can the integer be the raw value of an enumeration? It has 128 signed bits. -/
def IsRaw (value : Int) : Prop := -2 ^ 127 ≤ value ∧ value < 2 ^ 127

theorem ldiff_lt_two_pow {left width : Nat} (room : left < 2 ^ width) (right : Nat) :
    left.ldiff right < 2 ^ width := by
  refine Nat.lt_pow_two_of_testBit _ fun place beyond => ?_
  have clear : left.testBit place = false :=
    Nat.testBit_lt_two_pow (Nat.lt_of_lt_of_le room (Nat.pow_le_pow_right Nat.two_pos beyond))
  rw [Nat.testBit_ldiff, clear, Bool.false_and]

/-- The bits of either of two raw values are a raw value. -/
theorem IsRaw.lor {left right : Int} (leftRaw : IsRaw left) (rightRaw : IsRaw right) :
    IsRaw (Int.lor left right) := by
  unfold IsRaw at *
  cases left with
  | ofNat left =>
    have leftLt : (left : Int) < 2 ^ 127 := leftRaw.2
    cases right with
    | ofNat right =>
      have rightLt : (right : Int) < 2 ^ 127 := rightRaw.2
      have room : left ||| right < 2 ^ 127 := Nat.or_lt_two_pow (by omega) (by omega)
      simp only [Int.lor]
      omega
    | negSucc right =>
      have room : right.ldiff left < 2 ^ 127 := ldiff_lt_two_pow (by omega) left
      simp only [Int.lor]
      omega
  | negSucc left =>
    cases right with
    | ofNat right =>
      have room : left.ldiff right < 2 ^ 127 := ldiff_lt_two_pow (by omega) right
      simp only [Int.lor]
      omega
    | negSucc right =>
      have room : left &&& right < 2 ^ 127 := Nat.and_lt_two_pow left (by omega)
      simp only [Int.lor]
      omega

/-- Of raw values, no bit is lost. -/
theorem bitsOfEither_eq {left right : Int} (leftRaw : IsRaw left) (rightRaw : IsRaw right) :
    bitsOfEither left right = Int.lor left right := by
  have both := leftRaw.lor rightRaw
  unfold bitsOfEither
  rw [ofInt_lor]
  exact BitVec.toInt_ofInt_eq_self (by decide) both.1 both.2

end Binding

end ScriptBridge
