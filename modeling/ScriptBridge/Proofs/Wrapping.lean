/-
This file shows what becomes of a binary number that is stored as an integer. Whatever
its size, its integer is kept modulo two to the 64th: a size below two to the 63rd is
that of a signed integer, whose bits are taken, and a number beyond has so few digits
that its remainder, and what that lacks of two to the 64th, are numbers of the format
as well, so that nothing is rounded on the way.
-/

import ScriptBridge.Buffer
import ScriptBridge.Proofs.Rounding

namespace ScriptBridge

namespace Number.Binary

/-! ### Numbers of few digits -/

/-- A size with no more digits than the format keeps is that of a number of the format. -/
theorem units_ofQuotient_of_few {format : Format} {numerator denominator significand binade : Nat}
    (negative : Bool) (positive : 0 < denominator)
    (exact_ : numerator * 2 ^ format.unitShift = significand * 2 ^ binade * denominator)
    (few : significand < 2 ^ (format.fractionBits + 1))
    (low : binade + 3 ≤ 2 ^ format.exponentBits) :
    (ofQuotient format negative numerator denominator).units = significand * 2 ^ binade ∧
      (ofQuotient format negative numerator denominator).negative = negative ∧
        (ofQuotient format negative numerator denominator).isFinite = true := by
  have leading : (significand * 2 ^ binade).log2 - format.fractionBits ≤ binade := by
    rcases Nat.eq_zero_or_pos (significand * 2 ^ binade) with zero | some
    · rw [zero, Nat.log2_zero, Nat.zero_sub]
      exact Nat.zero_le _
    · have below : significand * 2 ^ binade < 2 ^ (format.fractionBits + 1 + binade) := by
        rw [Nat.pow_add 2 (format.fractionBits + 1)]
        exact Nat.mul_lt_mul_of_pos_right few (Nat.two_pow_pos binade)
      have := (Nat.log2_lt (Nat.ne_of_gt some)).mpr below
      omega
  exact units_ofQuotient negative positive exact_
    ((Nat.pow_dvd_pow 2 leading).mul_left significand) (by omega)

variable {number : Double}

/-- The digits of a finite number, and where the last of them stands. -/
theorem exists_significand (finite : number.isFinite = true) :
    ∃ significand binade, significand < 2 ^ 53 ∧ number.units = significand * 2 ^ binade ∧
      binade ≤ 2045 := by
  obtain ⟨significand, few, split⟩ := number.units_eq_significand
  have below : number.magnitude / 2 ^ 52 < 2047 :=
    (Nat.div_lt_iff_lt_mul (Nat.two_pow_pos _)).mpr (of_decide_eq_true finite)
  exact ⟨significand, _, few, split, show number.magnitude / 2 ^ 52 - 1 ≤ 2045 by omega⟩

/-! ### Numbers without fractions -/

/-- The whole part of a size. -/
def wholes (number : Double) : Nat := number.units / 2 ^ Format.double.unitShift

theorem truncate_eq_wholes (number : Double) :
    number.truncate = if number.negative then -(number.wholes : Int) else number.wholes := rfl

/-- Dropping the fraction leaves a number of the format. -/
theorem whole_spec (finite : number.isFinite = true) :
    number.whole.units = number.wholes * 2 ^ Format.double.unitShift ∧
      number.whole.negative = number.negative ∧ number.whole.isFinite = true := by
  obtain ⟨significand, binade, few, split, low⟩ := exists_significand finite
  have shift : Format.double.unitShift = 1074 := rfl
  rcases Nat.le_total Format.double.unitShift binade with above | below
  · -- All digits stand before the point.
    have kept : number.wholes * 2 ^ Format.double.unitShift = significand * 2 ^ binade := by
      unfold wholes
      rw [split]
      exact Nat.div_mul_cancel ((Nat.pow_dvd_pow 2 above).mul_left significand)
    rw [kept]
    exact units_ofQuotient_of_few _ Nat.one_pos (kept.trans (Nat.mul_one _).symm) few
      (show binade + 3 ≤ 2048 by omega)
  · have fewer : number.wholes < 2 ^ 53 := by
      have size : number.wholes ≤ significand := by
        unfold wholes
        rw [split]
        refine Nat.div_le_of_le_mul ?_
        rw [Nat.mul_comm]
        exact Nat.mul_le_mul_right _ (Nat.pow_le_pow_right Nat.two_pos below)
      omega
    exact units_ofQuotient_of_few _ Nat.one_pos (Nat.mul_one _).symm fewer
      (show Format.double.unitShift + 3 ≤ 2048 by omega)

theorem truncate_of_units {wholes : Nat}
    (units : number.units = wholes * 2 ^ Format.double.unitShift) :
    number.truncate = if number.negative then -(wholes : Int) else wholes := by
  unfold truncate
  dsimp only
  rw [units, Nat.mul_div_cancel _ (Nat.two_pow_pos _)]

theorem truncate_whole (finite : number.isFinite = true) :
    number.whole.truncate = number.truncate := by
  obtain ⟨units, negative, -⟩ := whole_spec finite
  rw [truncate_of_units units, negative, truncate_eq_wholes]

/-- An integer within the bounds is taken as it is. -/
theorem clampToInt_of_finite (finite : number.isFinite = true) {lower upper : Int}
    (least : lower ≤ number.truncate) (greatest : number.truncate ≤ upper) :
    number.clampToInt lower upper = number.truncate := by
  have below : number.magnitude < Format.double.infinity := of_decide_eq_true finite
  have proper : number.isNaN = false := decide_eq_false (Nat.not_lt_of_lt below)
  have bounded : number.isInfinite = false := beq_eq_false_iff_ne.mpr (Nat.ne_of_lt below)
  unfold clampToInt
  rw [proper, bounded, if_neg Bool.false_ne_true, if_neg Bool.false_ne_true]
  omega

theorem signedUnits_abs (number : Double) : number.abs.signedUnits = number.units := rfl

theorem isFinite_abs (number : Double) : number.abs.isFinite = number.isFinite := rfl

theorem isLess_of_finite {other : Double} (finite : number.isFinite = true)
    (otherFinite : other.isFinite = true) :
    number.isLess other = decide (number.signedUnits < other.signedUnits) := by
  have proper {number : Double} (finite : number.isFinite = true) : number.isNaN = false :=
    decide_eq_false (Nat.not_lt_of_lt (of_decide_eq_true finite))
  unfold isLess
  rw [proper finite, proper otherFinite]
  rfl

/-! ### Remainders -/

/-- A number from two to the 63rd on ends in eleven zeros. -/
theorem dvd_wholes (finite : number.isFinite = true) (large : 2 ^ 63 ≤ number.wholes) :
    2 ^ 11 ∣ number.wholes := by
  obtain ⟨significand, binade, few, split, -⟩ := exists_significand finite
  have shift : Format.double.unitShift = 1074 := rfl
  have high : 11 + Format.double.unitShift ≤ binade := by
    refine Nat.le_of_not_lt fun low => absurd large (Nat.not_le_of_lt ?_)
    unfold wholes
    rw [split]
    refine (Nat.div_lt_iff_lt_mul (Nat.two_pow_pos _)).mpr ?_
    calc significand * 2 ^ binade < 2 ^ 53 * 2 ^ binade :=
          Nat.mul_lt_mul_of_pos_right few (Nat.two_pow_pos binade)
      _ ≤ 2 ^ 53 * 2 ^ (10 + Format.double.unitShift) :=
          Nat.mul_le_mul_left _ (Nat.pow_le_pow_right Nat.two_pos (by omega))
      _ = 2 ^ 63 * 2 ^ Format.double.unitShift := by rw [Nat.pow_add, ← Nat.mul_assoc]
  obtain ⟨further, rfl⟩ := Nat.exists_eq_add_of_le high
  refine ⟨significand * 2 ^ further, ?_⟩
  unfold wholes
  rw [split, Nat.pow_add, Nat.pow_add, ← Nat.mul_assoc, ← Nat.mul_assoc, Nat.mul_right_comm,
    Nat.mul_div_cancel _ (Nat.two_pow_pos _)]
  ring

/-- So does what two to the 64th leaves of it. -/
theorem dvd_wholes_mod (finite : number.isFinite = true) (large : 2 ^ 63 ≤ number.wholes) :
    2 ^ 11 ∣ number.wholes % 2 ^ 64 :=
  (Nat.dvd_mod_iff (Nat.pow_dvd_pow 2 (by decide))).mpr (dvd_wholes finite large)

theorem units_word :
    (ofInt Format.double (2 ^ 64)).units = 2 ^ 64 * 2 ^ Format.double.unitShift := by
  decide +kernel

/-- What is below two to the 64th and ends in eleven zeros is a number of the format. -/
theorem units_ofQuotient_of_dvd {rest : Nat} (negative : Bool) (zeros : 2 ^ 11 ∣ rest)
    (below : rest < 2 ^ 64) :
    let number := ofQuotient Format.double negative (rest * 2 ^ Format.double.unitShift)
      (2 ^ Format.double.unitShift)
    number.units = rest * 2 ^ Format.double.unitShift ∧ number.negative = negative ∧
      number.isFinite = true := by
  obtain ⟨significand, rfl⟩ := zeros
  have shift : Format.double.unitShift = 1074 := rfl
  have moved : 2 ^ 11 * significand * 2 ^ Format.double.unitShift =
      significand * 2 ^ (11 + Format.double.unitShift) := by
    rw [Nat.pow_add, Nat.mul_comm (2 ^ 11), Nat.mul_assoc]
  rw [moved]
  exact units_ofQuotient_of_few negative (Nat.two_pow_pos _) rfl
    (show significand < 2 ^ 53 by omega) (show 11 + Format.double.unitShift + 3 ≤ 2048 by omega)

/-- What two to the 64th leaves of a large number has no fraction. -/
theorem remainder_whole (finite : number.isFinite = true) (large : 2 ^ 63 ≤ number.wholes) :
    let rest := number.whole.remainder (.ofInt .double (2 ^ 64))
    rest.units = number.wholes % 2 ^ 64 * 2 ^ Format.double.unitShift ∧
      rest.negative = number.negative ∧ rest.isFinite = true := by
  obtain ⟨units, negative, -⟩ := whole_spec finite
  unfold remainder
  dsimp only
  rw [units, units_word, Nat.mul_mod_mul_right, ← negative]
  exact units_ofQuotient_of_dvd number.whole.negative (dvd_wholes_mod finite large)
    (Nat.mod_lt _ (by decide))

theorem euclideanRemainder_of_nonneg {divisor : Double}
    (finite : (number.remainder divisor).isFinite = true)
    (kept : 0 ≤ (number.remainder divisor).signedUnits) :
    number.euclideanRemainder divisor = number.remainder divisor := by
  have none : (zero Format.double).signedUnits = 0 := by decide
  unfold euclideanRemainder
  dsimp only
  rw [isLess_of_finite finite (by decide), none, decide_eq_false (Int.not_lt.mpr kept),
    if_neg Bool.false_ne_true]

/-- What is left of a number below zero is raised by the size of the divisor. -/
theorem euclideanRemainder_of_neg {divisor : Double} {sum : Nat}
    (finite : (number.remainder divisor).isFinite = true)
    (less : (number.remainder divisor).signedUnits < 0)
    (raised : (number.remainder divisor).signedUnits + divisor.units = sum) :
    number.euclideanRemainder divisor =
      ofQuotient Format.double false sum (2 ^ Format.double.unitShift) := by
  have none : (zero Format.double).signedUnits = 0 := by decide
  unfold euclideanRemainder
  dsimp only
  rw [isLess_of_finite finite (by decide), none, decide_eq_true less, if_pos rfl, raised,
    decide_eq_false (Int.not_lt.mpr (Int.natCast_nonneg _)), Int.natAbs_natCast]

/-- A large number is reduced without being rounded. -/
theorem euclideanRemainder_whole (finite : number.isFinite = true)
    (large : 2 ^ 63 ≤ number.wholes) :
    let rest := number.whole.euclideanRemainder (.ofInt .double (2 ^ 64))
    rest.isFinite = true ∧ rest.truncate = number.truncate % 2 ^ 64 := by
  obtain ⟨units, negative, restFinite⟩ := remainder_whole finite large
  have below : number.wholes % 2 ^ 64 < 2 ^ 64 := Nat.mod_lt _ (by decide)
  have signed : (number.whole.remainder (.ofInt .double (2 ^ 64))).signedUnits =
      if number.negative then -((number.wholes % 2 ^ 64 * 2 ^ Format.double.unitShift : Nat) : Int)
      else ((number.wholes % 2 ^ 64 * 2 ^ Format.double.unitShift : Nat) : Int) := by
    unfold signedUnits
    rw [units, negative]
  dsimp only
  rw [truncate_eq_wholes number]
  by_cases raised : number.negative = true ∧ number.wholes % 2 ^ 64 ≠ 0
  · -- The remainder is below zero; what it lacks of two to the 64th ends in eleven zeros as well.
    obtain ⟨minus, some⟩ := raised
    have size := Nat.mul_pos (Nat.pos_of_ne_zero some) (Nat.two_pow_pos Format.double.unitShift)
    have room := Nat.mul_le_mul_right (2 ^ Format.double.unitShift) (Nat.le_of_lt below)
    rw [if_pos minus] at signed
    obtain ⟨sumUnits, sumNegative, sumFinite⟩ := units_ofQuotient_of_dvd false
      (Nat.dvd_sub (Nat.pow_dvd_pow 2 (by decide)) (dvd_wholes_mod finite large))
      (show 2 ^ 64 - number.wholes % 2 ^ 64 < 2 ^ 64 by omega)
    have sum : (number.whole.remainder (.ofInt .double (2 ^ 64))).signedUnits +
        (ofInt Format.double (2 ^ 64)).units =
          ((2 ^ 64 - number.wholes % 2 ^ 64) * 2 ^ Format.double.unitShift : Nat) := by
      rw [signed, units_word, Nat.sub_mul]
      omega
    rw [euclideanRemainder_of_neg restFinite (by omega) sum]
    refine ⟨sumFinite, ?_⟩
    rw [truncate_of_units sumUnits, sumNegative, if_neg Bool.false_ne_true, if_pos minus]
    omega
  · have kept : number.negative = true → number.wholes % 2 ^ 64 = 0 := fun minus =>
      Classical.byContradiction fun some => raised ⟨minus, some⟩
    rw [euclideanRemainder_of_nonneg restFinite]
    · refine ⟨restFinite, ?_⟩
      rw [truncate_of_units units, negative]
      split
      next minus =>
        have zero := kept minus
        omega
      next => omega
    · rw [signed]
      split
      next minus =>
        rw [kept minus, Nat.zero_mul]
        decide
      next => exact Int.natCast_nonneg _

end Number.Binary

namespace Buffer

open Number

/-- The integer of a finite number is kept modulo two to the 64th, whatever its size. -/
theorem wrapWhole_eq {number : Double} (finite : number.isFinite = true) :
    wrapWhole number = (number.truncate % 2 ^ 64).toNat := by
  obtain ⟨units, negative, wholeFinite⟩ := Binary.whole_spec finite
  have bound : (Binary.ofInt Format.double (2 ^ 63)).signedUnits =
      ((2 ^ 63 * 2 ^ Format.double.unitShift : Nat) : Int) := by
    decide +kernel
  have boundFinite : (Binary.ofInt Format.double (2 ^ 63)).isFinite = true := by decide +kernel
  have compared : number.whole.abs.isLess (.ofInt .double (2 ^ 63)) =
      decide (number.wholes < 2 ^ 63) := by
    rw [Binary.isLess_of_finite ((Binary.isFinite_abs _).trans wholeFinite) boundFinite, bound,
      Binary.signedUnits_abs, units, decide_eq_decide, Int.ofNat_lt,
      Nat.mul_lt_mul_right (Nat.two_pow_pos _)]
  unfold wrapWhole
  dsimp only
  rw [finite, Bool.not_true, if_neg Bool.false_ne_true, compared]
  by_cases small : number.wholes < 2 ^ 63
  · have truncated := Binary.truncate_whole finite
    have reads := Binary.truncate_eq_wholes number
    rw [if_pos (decide_eq_true small), Binary.clampToInt_of_finite wholeFinite, truncated]
    · rw [truncated, reads]
      split <;> omega
    · rw [truncated, reads]
      split <;> omega
  · obtain ⟨restFinite, truncated⟩ :=
      Binary.euclideanRemainder_whole finite (Nat.le_of_not_lt small)
    rw [if_neg (mt of_decide_eq_true small), Binary.clampToInt_of_finite restFinite, truncated]
    · rw [truncated]
      omega
    · rw [truncated]
      omega

end Buffer

end ScriptBridge
