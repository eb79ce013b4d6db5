/-
This file holds binary floating-point numbers as the interchange formats store
them. A number is its sign and its remaining bits, read as one natural number,
the magnitude. Magnitudes are ordered as the values are, and every finite value
is a whole multiple of the smallest positive one, the unit; so rounding,
comparison and conversion are exact arithmetic on naturals, with no operation
whose result a proof cannot compute.
-/

namespace ScriptBridge.Number

-- Powers are those of the core library, whatever else a module imports, and in whatever order.
attribute [instance (20000), default_instance (20000)] instPowNat

/-! ### Formats -/

/-- A binary interchange format: the widths of its fraction and exponent fields. -/
structure Format where
  fractionBits : Nat
  exponentBits : Nat
  deriving DecidableEq, Repr

namespace Format

/-- The 64-bit format. -/
def double : Format := ⟨52, 11⟩

/-- The 32-bit format. -/
def single : Format := ⟨23, 8⟩

/-- The number of magnitudes, infinities and NaNs included. -/
def magnitudes (format : Format) : Nat := 2 ^ (format.exponentBits + format.fractionBits)

/-- The magnitude of an infinity: a full exponent field over an empty fraction. -/
def infinity (format : Format) : Nat :=
  (2 ^ format.exponentBits - 1) * 2 ^ format.fractionBits

/-- The unit is two to the power of minus this: the value of the smallest positive number. -/
def unitShift (format : Format) : Nat :=
  2 ^ (format.exponentBits - 1) - 2 + format.fractionBits

theorem infinity_lt_magnitudes (format : Format) : format.infinity < format.magnitudes := by
  unfold infinity magnitudes
  rw [Nat.pow_add]
  exact Nat.mul_lt_mul_of_pos_right (Nat.sub_lt (Nat.two_pow_pos _) Nat.one_pos) (Nat.two_pow_pos _)

end Format

/-! ### Rounding a quotient -/

/-- The whole number nearest to a quotient; of two equally near ones the even. -/
def roundHalfEven (numerator denominator : Nat) : Nat :=
  let quotient := numerator / denominator
  let twice := 2 * (numerator % denominator)
  if denominator < twice || (twice == denominator && quotient % 2 == 1) then quotient + 1
  else quotient

/-! ### Numbers of a format -/

/-- A number of a format: its sign and the bits below the sign. -/
structure Binary (format : Format) where
  negative : Bool
  magnitude : Nat
  magnitude_lt : magnitude < format.magnitudes
  deriving DecidableEq, Repr

/-- A 64-bit number. -/
abbrev Double := Binary Format.double

/-- A 32-bit number. -/
abbrev Single := Binary Format.single

namespace Binary

variable {format : Format}

/-- The number with the given sign and magnitude; magnitudes beyond the format become infinity. -/
def ofMagnitude (format : Format) (negative : Bool) (magnitude : Nat) : Binary format :=
  if h : magnitude < format.magnitudes then ⟨negative, magnitude, h⟩
  else ⟨negative, format.infinity, format.infinity_lt_magnitudes⟩

/-- The positive zero. -/
def zero (format : Format) : Binary format := ofMagnitude format false 0

/-- The infinity of a sign. -/
def infinite (format : Format) (negative : Bool) : Binary format :=
  ⟨negative, format.infinity, format.infinity_lt_magnitudes⟩

/-- The quiet NaN without payload. -/
def nan (format : Format) : Binary format :=
  ofMagnitude format false (format.infinity + 2 ^ (format.fractionBits - 1))

instance : Inhabited (Binary format) := ⟨zero format⟩

/-- A NaN lies above infinity. -/
def isNaN (number : Binary format) : Bool := format.infinity < number.magnitude

/-- Is the number one of the two infinities? -/
def isInfinite (number : Binary format) : Bool := number.magnitude == format.infinity

/-- Is the number neither infinite nor a NaN? -/
def isFinite (number : Binary format) : Bool := number.magnitude < format.infinity

/-- Is the number a zero of either sign? -/
def isZero (number : Binary format) : Bool := number.magnitude == 0

/-- The same number with a clear sign. -/
def abs (number : Binary format) : Binary format := { number with negative := false }

/-- The size of the gap to the next larger magnitude, in units. -/
def step (number : Binary format) : Nat :=
  2 ^ (number.magnitude / 2 ^ format.fractionBits - 1)

/-- The size of a finite number in units. Below two binades the magnitude counts units;
above, each binade doubles the step. -/
def units (number : Binary format) : Nat :=
  if number.magnitude < 2 ^ format.fractionBits then number.magnitude
  else (2 ^ format.fractionBits + number.magnitude % 2 ^ format.fractionBits) * number.step

/-- The signed size of a finite number in units. -/
def signedUnits (number : Binary format) : Int :=
  if number.negative then -(number.units : Int) else number.units

/-- The magnitude nearest to a quotient of units, ties to the even one. The binade of the
quotient fixes the step; what overflows is infinite. -/
def roundUnits (format : Format) (numerator denominator : Nat) : Nat :=
  let binade := (numerator / denominator).log2 - format.fractionBits
  let rounded := binade * 2 ^ format.fractionBits +
    roundHalfEven numerator (denominator * 2 ^ binade)
  min rounded format.infinity

/-- The number nearest to a quotient, with the given sign. -/
def ofQuotient (format : Format) (negative : Bool) (numerator denominator : Nat) : Binary format :=
  ofMagnitude format negative
    (roundUnits format (numerator * 2 ^ format.unitShift) denominator)

/-- The number nearest to an integer. -/
def ofInt (format : Format) (value : Int) : Binary format :=
  ofQuotient format (value < 0) value.natAbs 1

/-! ### Parts of a number -/

/-- A finite number with its fractional part dropped. -/
def truncate (number : Binary format) : Int :=
  let whole : Int := (number.units / 2 ^ format.unitShift : Nat)
  if number.negative then -whole else whole

/-- Is the number finite and without fractional part? -/
def isWhole (number : Binary format) : Bool :=
  number.isFinite && number.units % 2 ^ format.unitShift == 0

/-- The integer nearest to the number within the given bounds, dropping fractions; a NaN is 0. -/
def clampToInt (number : Binary format) (lower upper : Int) : Int :=
  if number.isNaN then 0
  else if number.isInfinite then (if number.negative then lower else upper)
  else max lower (min upper number.truncate)

/-! ### Comparison -/

/-- Numeric equality: zeros of both signs are equal and a NaN equals nothing. -/
def equals (left right : Binary format) : Bool :=
  !left.isNaN && !right.isNaN &&
    ((left.magnitude == 0 && right.magnitude == 0) ||
      (left.negative == right.negative && left.magnitude == right.magnitude))

/-- Is the number greater than or equal to zero? A NaN is not. -/
def isNonnegative (number : Binary format) : Bool :=
  !number.isNaN && (!number.negative || number.magnitude == 0)

/-- Is the left number less than the right one? A NaN is neither less nor greater than any. -/
def isLess (left right : Binary format) : Bool :=
  !left.isNaN && !right.isNaN && left.signedUnits < right.signedUnits

/-! ### Remainders -/

/-- A finite number with its fractional part dropped, as a number of the format. -/
def whole (number : Binary format) : Binary format :=
  ofQuotient format number.negative (number.units / 2 ^ format.unitShift) 1

/-- What a finite divisor leaves of a finite number, with the sign of the number. -/
def remainder (number divisor : Binary format) : Binary format :=
  ofQuotient format number.negative (number.units % divisor.units) (2 ^ format.unitShift)

/-- The remainder that is not negative: one below zero is raised by the size of the divisor. -/
def euclideanRemainder (number divisor : Binary format) : Binary format :=
  let rest := number.remainder divisor
  if rest.isLess (zero format) then
    let sum := rest.signedUnits + divisor.units
    ofQuotient format (sum < 0) sum.natAbs (2 ^ format.unitShift)
  else rest

/-! ### Stored form -/

/-- All bits of the number, the sign highest. -/
def toBits (number : Binary format) : Nat :=
  (if number.negative then format.magnitudes else 0) + number.magnitude

/-- The number with the given bits; higher bits are ignored. -/
def ofBits (format : Format) (bits : Nat) : Binary format :=
  ⟨bits / format.magnitudes % 2 == 1, bits % format.magnitudes,
    Nat.mod_lt _ (Nat.two_pow_pos _)⟩

end Binary

/-! ### Between the formats -/

/-- The same value in the wider format. A NaN becomes quiet and keeps its payload's place. -/
def Single.toDouble (number : Single) : Double :=
  if number.isNaN then
    let payload := number.magnitude % 2 ^ Format.single.fractionBits
    let quiet :=
      payload % 2 ^ (Format.single.fractionBits - 1) + 2 ^ (Format.single.fractionBits - 1)
    Binary.ofMagnitude Format.double number.negative
      (Format.double.infinity +
        quiet * 2 ^ (Format.double.fractionBits - Format.single.fractionBits))
  else if number.isInfinite then Binary.infinite Format.double number.negative
  else Binary.ofQuotient Format.double number.negative number.units (2 ^ Format.single.unitShift)

/-- The nearest value in the narrower format. A NaN becomes quiet and keeps the high part of its
payload. -/
def Double.toSingle (number : Double) : Single :=
  if number.isNaN then
    let payload := number.magnitude % 2 ^ Format.double.fractionBits /
      2 ^ (Format.double.fractionBits - Format.single.fractionBits)
    let quiet :=
      payload % 2 ^ (Format.single.fractionBits - 1) + 2 ^ (Format.single.fractionBits - 1)
    Binary.ofMagnitude Format.single number.negative (Format.single.infinity + quiet)
  else if number.isInfinite then Binary.infinite Format.single number.negative
  else Binary.ofQuotient Format.single number.negative number.units (2 ^ Format.double.unitShift)

end ScriptBridge.Number
