/-
This file says what integers are rounded to. A binary format keeps one digit more of
an integer than its fraction has places, and the nearest integer of so few digits,
the even one of two, is what it holds. So shorter integers are kept as they are, no
power of two is crossed, and two integers are rounded to the same number exactly
where these nearest integers are the same.
-/

import ScriptBridge.Proofs.Truncation

namespace ScriptBridge.Number

/-! ### Rounding a quotient -/

/-- A common factor does not matter. -/
theorem roundHalfEven_mul_mul (numerator denominator : Nat) {factor : Nat}
    (positive : 0 < factor) :
    roundHalfEven (numerator * factor) (denominator * factor) =
      roundHalfEven numerator denominator := by
  have twice : 2 * (numerator % denominator * factor) =
      2 * (numerator % denominator) * factor := (Nat.mul_assoc ..).symm
  have ties : ∀ left right : Nat, (left * factor == right * factor) = (left == right) :=
    fun left right => Bool.eq_iff_iff.mpr
      (by rw [beq_iff_eq, beq_iff_eq, Nat.mul_left_inj (Nat.ne_of_gt positive)])
  unfold roundHalfEven
  dsimp only
  rw [Nat.mul_div_mul_right _ _ positive, Nat.mul_mod_mul_right, twice, ties]
  simp only [Nat.mul_lt_mul_right positive]

theorem le_roundHalfEven (numerator denominator : Nat) :
    numerator / denominator ≤ roundHalfEven numerator denominator := by
  unfold roundHalfEven
  dsimp only
  split
  · exact Nat.le_succ _
  · exact Nat.le_refl _

theorem roundHalfEven_le (numerator denominator : Nat) :
    roundHalfEven numerator denominator ≤ numerator / denominator + 1 := by
  unfold roundHalfEven
  dsimp only
  split
  · exact Nat.le_refl _
  · exact Nat.le_succ _

/-- What has a digit more than a fraction is rounded to that or to the next power of two. -/
theorem roundHalfEven_bounds {size places binade : Nat} (least : 2 ^ (places + binade) ≤ size)
    (greatest : size < 2 ^ (places + 1 + binade)) :
    2 ^ places ≤ roundHalfEven size (2 ^ binade) ∧
      roundHalfEven size (2 ^ binade) ≤ 2 ^ (places + 1) := by
  rw [Nat.pow_add] at least greatest
  have above := (Nat.le_div_iff_mul_le (Nat.two_pow_pos binade)).mpr least
  have below := (Nat.div_lt_iff_lt_mul (Nat.two_pow_pos binade)).mpr greatest
  exact ⟨above.trans (le_roundHalfEven _ _), (roundHalfEven_le _ _).trans below⟩

/-! ### Leading digits -/

theorem log2_mul_two_pow {size : Nat} (nonzero : size ≠ 0) (places : Nat) :
    (size * 2 ^ places).log2 = size.log2 + places := by
  have positive := Nat.two_pow_pos places
  rw [Nat.log2_eq_iff (Nat.mul_ne_zero nonzero (Nat.ne_of_gt positive))]
  constructor
  · rw [Nat.pow_add]
    exact Nat.mul_le_mul_right _ (Nat.log2_self_le nonzero)
  · rw [Nat.add_right_comm, Nat.pow_add]
    exact Nat.mul_lt_mul_of_pos_right Nat.lt_log2_self positive

/-- The size nearest to a given one among those of so few digits that the format keeps them all. -/
def nearestSize (format : Format) (size : Nat) : Nat :=
  let step := 2 ^ (size.log2 - format.fractionBits)
  roundHalfEven size step * step

/-- The integer nearest to a given one among those of so few digits that the format keeps them
all. -/
def nearest (format : Format) (value : Int) : Int :=
  if value < 0 then -(nearestSize format value.natAbs : Int) else nearestSize format value.natAbs

variable {format : Format} {size : Nat} {value other : Int}

/-- No digit of a short integer is lost. -/
theorem nearestSize_of_lt (short : size < 2 ^ (format.fractionBits + 1)) :
    nearestSize format size = size := by
  have leading : size.log2 - format.fractionBits = 0 := by
    rcases Nat.eq_zero_or_pos size with rfl | positive
    · rw [Nat.log2_zero, Nat.zero_sub]
    · have := (Nat.log2_lt (Nat.ne_of_gt positive)).mpr short
      omega
  have kept := roundHalfEven_mul size Nat.one_pos
  unfold nearestSize
  dsimp only
  rw [leading, Nat.pow_zero, Nat.mul_one]
  rwa [Nat.mul_one] at kept

/-- No power of two is crossed. -/
theorem two_pow_le_nearestSize {digits : Nat} (least : 2 ^ digits ≤ size) :
    2 ^ digits ≤ nearestSize format size := by
  by_cases short : size < 2 ^ (format.fractionBits + 1)
  · rwa [nearestSize_of_lt short]
  · have long : 2 ^ (format.fractionBits + 1) ≤ size := Nat.le_of_not_lt short
    have nonzero : size ≠ 0 := by
      rintro rfl
      exact absurd long (Nat.not_le_of_lt (Nat.two_pow_pos _))
    have places : format.fractionBits + (size.log2 - format.fractionBits) = size.log2 := by
      have := (Nat.le_log2 nonzero).mpr long
      omega
    have kept : 2 ^ format.fractionBits ≤
        roundHalfEven size (2 ^ (size.log2 - format.fractionBits)) := by
      refine (Nat.le_div_iff_mul_le (Nat.two_pow_pos _)).mpr ?_ |>.trans (le_roundHalfEven _ _)
      rw [← Nat.pow_add, places]
      exact Nat.log2_self_le nonzero
    calc 2 ^ digits ≤ 2 ^ size.log2 :=
          Nat.pow_le_pow_right Nat.two_pos ((Nat.le_log2 nonzero).mpr least)
      _ = 2 ^ format.fractionBits * 2 ^ (size.log2 - format.fractionBits) := by
          rw [← Nat.pow_add, places]
      _ ≤ nearestSize format size := Nat.mul_le_mul_right _ kept

/-- A power of two with as many zeros as the fraction has places, and one more, is kept too. -/
theorem nearestSize_of_le (short : size ≤ 2 ^ (format.fractionBits + 1)) :
    nearestSize format size = size := by
  rcases Nat.lt_or_eq_of_le short with less | rfl
  · exact nearestSize_of_lt less
  · have kept := roundHalfEven_mul (2 ^ format.fractionBits) Nat.two_pos
    unfold nearestSize
    dsimp only
    rw [Nat.log2_two_pow, Nat.add_sub_cancel_left, Nat.pow_one, Nat.pow_succ, kept]

theorem nearest_of_le (short : value.natAbs ≤ 2 ^ (format.fractionBits + 1)) :
    nearest format value = value := by
  unfold nearest
  rw [nearestSize_of_le short]
  split <;> omega

theorem natAbs_nearest (format : Format) (value : Int) :
    (nearest format value).natAbs = nearestSize format value.natAbs := by
  unfold nearest
  split
  · rw [Int.natAbs_neg, Int.natAbs_natCast]
  · rw [Int.natAbs_natCast]

/-- What is not zero keeps its sign. -/
theorem nearest_neg_iff : nearest format value < 0 ↔ value < 0 := by
  unfold nearest
  split
  next negative =>
    have positive : 2 ^ 0 ≤ nearestSize format value.natAbs :=
      two_pow_le_nearestSize (by rw [Nat.pow_zero]; omega)
    rw [Nat.pow_zero] at positive
    exact ⟨fun _ => negative, fun _ => by omega⟩
  next => exact ⟨fun negative => by omega, fun negative => by omega⟩

/-- An integer that becomes a short one was that one. -/
theorem nearest_eq_of_lt (short : (nearest format value).natAbs < 2 ^ (format.fractionBits + 1)) :
    nearest format value = value := by
  refine nearest_of_le (Nat.le_of_lt (Nat.lt_of_not_le fun long => ?_))
  rw [natAbs_nearest] at short
  exact absurd (two_pow_le_nearestSize long) (Nat.not_le_of_lt short)

/-- Nothing else has the nearest integer that a short one has. -/
theorem eq_of_nearest_eq (short : value.natAbs < 2 ^ (format.fractionBits + 1))
    (same : nearest format value = nearest format other) : value = other := by
  have kept : nearest format value = value := nearest_of_le (Nat.le_of_lt short)
  have keptOther : nearest format other = other := nearest_eq_of_lt (by rwa [← same, kept])
  exact kept.symm.trans (same.trans keptOther)

/-! ### What a format has for an integer -/

namespace Binary

/-- The size of a number determines its magnitude: where the leading digit stands tells the
binade. -/
theorem magnitude_of_units (number : Binary format) :
    number.magnitude = (number.units.log2 - format.fractionBits) * 2 ^ format.fractionBits +
      number.units / 2 ^ (number.units.log2 - format.fractionBits) := by
  unfold units
  by_cases small : number.magnitude < 2 ^ format.fractionBits
  · have leading : number.magnitude.log2 - format.fractionBits = 0 := by
      rcases Nat.eq_zero_or_pos number.magnitude with zero | positive
      · rw [zero, Nat.log2_zero, Nat.zero_sub]
      · have := (Nat.log2_lt (Nat.ne_of_gt positive)).mpr small
        omega
    rw [if_pos small, leading, Nat.zero_mul, Nat.pow_zero, Nat.div_one, Nat.zero_add]
  · have positive := Nat.two_pow_pos format.fractionBits
    have binades : 1 ≤ number.magnitude / 2 ^ format.fractionBits :=
      (Nat.le_div_iff_mul_le positive).mpr (by omega)
    have room := Nat.mod_lt number.magnitude positive
    have whole := Nat.div_add_mod number.magnitude (2 ^ format.fractionBits)
    unfold step
    generalize number.magnitude / 2 ^ format.fractionBits = binade at *
    generalize number.magnitude % 2 ^ format.fractionBits = fraction at *
    obtain ⟨binade, rfl⟩ := Nat.exists_eq_add_of_le' binades
    have leading : (2 ^ format.fractionBits + fraction).log2 = format.fractionBits := by
      rw [Nat.log2_eq_iff (by omega), Nat.pow_succ]
      omega
    rw [if_neg small, log2_mul_two_pow (by omega), leading, Nat.add_sub_cancel_left,
      Nat.add_sub_cancel, Nat.mul_div_cancel _ (Nat.two_pow_pos binade), ← whole]
    ring

/-- The places between the last one that the format keeps of an integer and its unit. -/
def leadingPlaces (format : Format) (size : Nat) : Nat :=
  size.log2 + (format.unitShift - format.fractionBits)

theorem log2_leadingPlaces (nonzero : size ≠ 0) :
    (size * 2 ^ format.unitShift).log2 = format.fractionBits + leadingPlaces format size := by
  have shift : format.fractionBits ≤ format.unitShift := Nat.le_add_left _ _
  unfold leadingPlaces
  rw [log2_mul_two_pow nonzero]
  omega

/-- The digits that the format keeps of an integer, rounded. -/
def significand (format : Format) (size : Nat) : Nat :=
  roundHalfEven (size * 2 ^ format.unitShift) (2 ^ leadingPlaces format size)

theorem significand_bounds (nonzero : size ≠ 0) :
    2 ^ format.fractionBits ≤ significand format size ∧
      significand format size ≤ 2 ^ (format.fractionBits + 1) := by
  have whole : size * 2 ^ format.unitShift ≠ 0 :=
    Nat.mul_ne_zero nonzero (Nat.ne_of_gt (Nat.two_pow_pos _))
  have leading := @log2_leadingPlaces format _ nonzero
  refine roundHalfEven_bounds (leading ▸ Nat.log2_self_le whole) ?_
  rw [Nat.add_right_comm, ← leading]
  exact Nat.lt_log2_self

/-- They are the digits of the nearest integer. -/
theorem significand_mul (nonzero : size ≠ 0) :
    significand format size * 2 ^ leadingPlaces format size =
      nearestSize format size * 2 ^ format.unitShift := by
  have shift : format.fractionBits ≤ format.unitShift := Nat.le_add_left _ _
  unfold significand
  by_cases short : size.log2 < format.fractionBits
  · -- Nothing is cut off: the digits are moved to the left only.
    have few : size < 2 ^ (format.fractionBits + 1) :=
      (Nat.log2_lt nonzero).mp (Nat.lt_succ_of_lt short)
    have moved : size * 2 ^ format.unitShift =
        size * 2 ^ (format.unitShift - leadingPlaces format size) *
          2 ^ leadingPlaces format size := by
      rw [Nat.mul_assoc, ← Nat.pow_add, Nat.sub_add_cancel]
      unfold leadingPlaces
      omega
    rw [nearestSize_of_lt few, moved, roundHalfEven_mul _ (Nat.two_pow_pos _)]
  · have places : leadingPlaces format size =
        size.log2 - format.fractionBits + format.unitShift := by
      unfold leadingPlaces
      omega
    unfold nearestSize
    dsimp only
    rw [places, Nat.pow_add, roundHalfEven_mul_mul _ _ (Nat.two_pow_pos _), Nat.mul_assoc]

theorem magnitude_ofInt (format : Format) (value : Int) :
    (ofInt format value).magnitude =
      roundUnits format (value.natAbs * 2 ^ format.unitShift) 1 := by
  have within : roundUnits format (value.natAbs * 2 ^ format.unitShift) 1 < format.magnitudes :=
    Nat.lt_of_le_of_lt (Nat.min_le_right _ _) format.infinity_lt_magnitudes
  unfold ofInt ofQuotient ofMagnitude
  rw [dif_pos within]

theorem magnitude_ofInt_zero (format : Format) : (ofInt format 0).magnitude = 0 := by
  have none := roundHalfEven_mul 0 Nat.one_pos
  rw [magnitude_ofInt]
  unfold roundUnits
  dsimp only
  rw [Int.natAbs_zero, Nat.zero_mul, Nat.zero_div, Nat.log2_zero, Nat.zero_sub, Nat.zero_mul,
    Nat.zero_add, Nat.pow_zero, Nat.mul_one]
  rw [Nat.zero_mul] at none
  rw [none, Nat.zero_min]

theorem magnitude_ofInt_of_ne_zero (nonzero : value.natAbs ≠ 0) :
    (ofInt format value).magnitude =
      min (leadingPlaces format value.natAbs * 2 ^ format.fractionBits +
        significand format value.natAbs) format.infinity := by
  rw [magnitude_ofInt]
  unfold roundUnits significand
  dsimp only
  rw [Nat.div_one, log2_leadingPlaces nonzero, Nat.add_sub_cancel_left, Nat.one_mul]

/-- What a finite number of the format has for an integer is the nearest integer. -/
theorem units_ofInt (finite : (ofInt format value).isFinite = true) :
    (ofInt format value).units = nearestSize format value.natAbs * 2 ^ format.unitShift := by
  by_cases nonzero : value.natAbs = 0
  · have zero := magnitude_ofInt_zero format
    rw [nonzero, nearestSize_of_lt (Nat.two_pow_pos _), Nat.zero_mul,
      Int.natAbs_eq_zero.mp nonzero]
    unfold units
    rw [zero, if_pos (Nat.two_pow_pos _)]
  · obtain ⟨least, greatest⟩ := @significand_bounds format _ nonzero
    have within : (ofInt format value).magnitude < format.infinity := of_decide_eq_true finite
    have reads := @magnitude_ofInt_of_ne_zero format _ nonzero
    replace reads := reads.trans (Nat.min_eq_left (by omega))
    rw [← significand_mul nonzero]
    -- Rounding up may reach the next power of two, which stands in the next binade.
    rcases Nat.lt_or_eq_of_le greatest with less | carried
    · exact units_of_magnitude reads (.inr least) less
    · have next : (ofInt format value).magnitude =
          (leadingPlaces format value.natAbs + 1) * 2 ^ format.fractionBits +
            2 ^ format.fractionBits := by
        rw [reads, carried]
        ring
      rw [units_of_magnitude next (.inr (Nat.le_refl _))
        (Nat.pow_lt_pow_right Nat.one_lt_two (Nat.lt_succ_self _)), carried]
      ring

theorem negative_ofInt (format : Format) (value : Int) :
    (ofInt format value).negative = decide (value < 0) := by
  unfold ofInt ofQuotient ofMagnitude
  split <;> rfl

/-- What is left of it without a fraction is the nearest integer. -/
theorem truncate_ofInt (finite : (ofInt format value).isFinite = true) :
    (ofInt format value).truncate = nearest format value := by
  unfold truncate nearest
  dsimp only
  rw [units_ofInt finite, negative_ofInt, Nat.mul_div_cancel _ (Nat.two_pow_pos _)]
  by_cases negative : value < 0
  · rw [if_pos (decide_eq_true negative), if_pos negative]
  · rw [decide_eq_false negative, if_neg negative]
    rfl

/-- Integers with fewer digits than half the binades have a finite number. -/
theorem isFinite_ofInt {digits : Nat} (room : digits + 2 ≤ 2 ^ (format.exponentBits - 1))
    (bounded : value.natAbs < 2 ^ digits) : (ofInt format value).isFinite = true := by
  refine decide_eq_true ?_
  have binades : 2 ^ format.exponentBits = 2 * 2 ^ (format.exponentBits - 1) := by
    cases exponent : format.exponentBits with
    | zero =>
      rw [exponent] at room
      omega
    | succ places => rw [Nat.pow_succ, Nat.mul_comm, Nat.add_sub_cancel]
  have positive := Nat.two_pow_pos format.fractionBits
  unfold Format.infinity
  rw [binades]
  by_cases nonzero : value.natAbs = 0
  · rw [Int.natAbs_eq_zero.mp nonzero, magnitude_ofInt_zero]
    exact Nat.mul_pos (by omega) positive
  · have leading := (Nat.log2_lt nonzero).mpr bounded
    have places : leadingPlaces format value.natAbs + 2 <
        2 * 2 ^ (format.exponentBits - 1) - 1 := by
      unfold leadingPlaces Format.unitShift
      omega
    have raised := Nat.mul_lt_mul_of_pos_right places positive
    have greatest : significand format value.natAbs ≤ 2 ^ (format.fractionBits + 1) :=
      (significand_bounds nonzero).2
    rw [magnitude_ofInt_of_ne_zero nonzero]
    refine Nat.lt_of_le_of_lt (Nat.min_le_left _ _) (Nat.lt_of_le_of_lt ?_ raised)
    rw [Nat.pow_succ] at greatest
    rw [Nat.add_mul]
    omega

/-- Integers have the same number exactly where the nearest integers are the same. -/
theorem equals_ofInt_iff (finite : (ofInt format value).isFinite = true)
    (finiteOther : (ofInt format other).isFinite = true) :
    (ofInt format value).equals (ofInt format other) = true ↔
      nearest format value = nearest format other := by
  have proper {number : Binary format} (finite : number.isFinite = true) :
      number.isNaN = false :=
    decide_eq_false (Nat.not_lt_of_lt (of_decide_eq_true finite))
  have magnitudes (same : nearest format value = nearest format other) :
      (ofInt format value).magnitude = (ofInt format other).magnitude := by
    have sizes := congrArg Int.natAbs same
    rw [natAbs_nearest, natAbs_nearest] at sizes
    rw [magnitude_of_units, magnitude_of_units (ofInt format other), units_ofInt finite,
      units_ofInt finiteOther, sizes]
  unfold equals
  rw [proper finite, proper finiteOther]
  simp only [Bool.not_false, Bool.true_and, Bool.or_eq_true, Bool.and_eq_true, beq_iff_eq]
  constructor
  · rintro (⟨zero, zeroOther⟩ | ⟨signs, same⟩)
    · have gone {number : Binary format} (zero : number.magnitude = 0) : number.truncate = 0 := by
        have none : number.units = 0 := by
          unfold units
          rw [zero, if_pos (Nat.two_pow_pos _)]
        unfold truncate
        dsimp only
        rw [none, Nat.zero_div]
        split <;> rfl
      rw [← truncate_ofInt finite, ← truncate_ofInt finiteOther, gone zero, gone zeroOther]
    · rw [← truncate_ofInt finite, ← truncate_ofInt finiteOther]
      unfold truncate units step
      rw [signs, same]
  · intro same
    refine .inr ⟨?_, magnitudes same⟩
    rw [negative_ofInt, negative_ofInt, decide_eq_decide, ← @nearest_neg_iff format,
      same, nearest_neg_iff]

/-- Integers of 64 bits have a finite number. -/
theorem isFinite_ofInt_toInt (value : Int64) :
    (ofInt Format.double value.toInt).isFinite = true := by
  have least := value.le_toInt
  have greatest := value.toInt_lt
  exact isFinite_ofInt (show 64 + 2 ≤ 2 ^ 10 by decide) (by omega)

end Binary

end ScriptBridge.Number
