/-
This file holds scaled decimals: a sign, a mantissa of 96 bits and a count of
decimal places of at most 28. The count is part of how a decimal is written but
not of what it equals. A whole binary number becomes a decimal exactly, if the
mantissa holds it; any other trades halvings for decimal places while the
mantissa has room, then keeps about sixteen digits. A decimal becomes binary
through its whole and fractional parts.
-/

import ScriptBridge.Number.Binary
import ScriptBridge.Number.Reading

namespace ScriptBridge.Number

/-- A decimal: the mantissa over ten to the power of the scale, with a sign. -/
structure Decimal where
  negative : Bool
  mantissa : Nat
  scale : Nat
  mantissa_lt : mantissa < 2 ^ 96
  scale_le : scale ≤ 28
  deriving DecidableEq, Repr

namespace Decimal

/-- The most decimal places. -/
def maxScale : Nat := 28

/-- A decimal from its parts, if they are in range. -/
def ofParts? (negative : Bool) (mantissa scale : Nat) : Option Decimal :=
  if h : mantissa < 2 ^ 96 ∧ scale ≤ 28 then some ⟨negative, mantissa, scale, h.1, h.2⟩ else none

/-- The whole zero. -/
def zero : Decimal := ⟨false, 0, 0, by decide, by decide⟩

instance : Inhabited Decimal := ⟨zero⟩

/-- A whole decimal, if the mantissa holds the integer. -/
def ofInt? (value : Int) : Option Decimal := ofParts? (value < 0) value.natAbs 0

/-- A 64-bit integer always fits. -/
def ofInt64 (value : Int64) : Decimal := (ofInt? value.toInt).getD zero

/-- The mantissa with its sign. -/
def signedMantissa (decimal : Decimal) : Int :=
  if decimal.negative then -(decimal.mantissa : Int) else decimal.mantissa

/-- Numeric equality, whatever the scales. -/
def equals (left right : Decimal) : Bool :=
  left.signedMantissa * 10 ^ right.scale == right.signedMantissa * 10 ^ left.scale

/-- The decimal without its fractional part, as an integer. -/
def truncate (decimal : Decimal) : Int :=
  let whole : Int := (decimal.mantissa / 10 ^ decimal.scale : Nat)
  if decimal.negative then -whole else whole

/-! ### Text -/

/-- The decimal with all its places. -/
def toText (decimal : Decimal) : String :=
  let digits := Nat.toDigits 10 decimal.mantissa
  let padded := List.replicate (decimal.scale + 1 - digits.length) '0' ++ digits
  let whole := padded.take (padded.length - decimal.scale)
  let fraction := padded.drop (padded.length - decimal.scale)
  let point := if decimal.scale == 0 then [] else ['.']
  (if decimal.negative then "-" else "") ++ String.ofList (whole ++ point ++ fraction)

/-- Reads an optional sign, digits and an optional point with digits. -/
def read? (text : List Char) : Option Decimal :=
  let (negative, rest) := splitSign text
  let whole := rest.takeWhile Char.isDigit
  let fraction? := match rest.dropWhile Char.isDigit with
    | [] => some []
    | '.' :: fraction => if fraction.all Char.isDigit then some fraction else none
    | _ => none
  fraction?.bind fun fraction =>
    let mantissa := digitsValue (whole ++ fraction)
    ofParts? (negative && mantissa != 0) mantissa fraction.length

/-! ### From binary numbers -/

/-- A mantissa over a power of two, as a mantissa and decimal places. Each halving of an odd
mantissa costs a place, since a half is five tenths; where five times the mantissa has no room, the
half is dropped instead. -/
def overTens : Nat → Nat → Nat × Nat
  | 0, mantissa => (mantissa, 0)
  | halvings + 1, mantissa =>
    if mantissa % 2 == 0 || 2 ^ 96 ≤ 5 * mantissa then overTens halvings (mantissa / 2)
    else
      let (settled, places) := overTens halvings (5 * mantissa)
      (settled, places + 1)

/-- The mantissa divided by ten, a half and more rounded up. -/
def dropPlace (mantissa : Nat) : Nat :=
  mantissa / 10 + (if 5 ≤ mantissa % 10 then 1 else 0)

/-- Places beyond the greatest scale dropped; a mantissa that runs out becomes a whole zero. -/
def dropExcess : Nat → Nat → Nat × Nat
  | 0, mantissa => (mantissa, maxScale)
  | excess + 1, mantissa =>
    if mantissa / 10 == 0 then (0, 0) else dropExcess excess (dropPlace mantissa)

/-- Places dropped while the mantissa exceeds 52 bits. -/
def keepPrecision : Nat → Nat → Nat × Nat
  | mantissa, 0 => (mantissa, 0)
  | mantissa, scale + 1 =>
    if 2 ^ 52 ≤ mantissa then keepPrecision (dropPlace mantissa) scale else (mantissa, scale + 1)

/-- Trailing zero places dropped. -/
def dropZeros : Nat → Nat → Nat × Nat
  | mantissa, 0 => (mantissa, 0)
  | mantissa, scale + 1 =>
    if mantissa % 10 == 0 then dropZeros (mantissa / 10) scale else (mantissa, scale + 1)

/-- The decimal for a binary number; none for infinities, NaNs and what the mantissa cannot hold. -/
def ofDouble? (number : Double) : Option Decimal :=
  if !number.isFinite then none
  else if number.isZero then some { zero with negative := number.negative }
  else
    let field : Nat := number.magnitude / 2 ^ 52
    let fraction : Nat := number.magnitude % 2 ^ 52
    let mantissa : Nat := if field == 0 then fraction else 2 ^ 52 + fraction
    let power : Int := (if field == 0 then 1 else (field : Int)) - 1075
    if 0 ≤ power then ofParts? number.negative (mantissa * 2 ^ power.toNat) 0
    else
      let (settled, places) := overTens (-power).toNat mantissa
      let (bounded, scale) :=
        if maxScale < places then dropExcess (places - maxScale) settled else (settled, places)
      let (kept, keptScale) := keepPrecision bounded scale
      let (trimmed, trimmedScale) := dropZeros kept keptScale
      ofParts? number.negative trimmed trimmedScale

/-! ### To binary numbers -/

/-- The binary number for a decimal. Whole and fractional parts are converted apart and added,
and the sum is rounded to the decimal's own places. -/
def toDouble (decimal : Decimal) : Double :=
  let ofRatio (numerator denominator : Nat) : Double :=
    .ofQuotient .double false numerator denominator
  let unit := 2 ^ Format.double.unitShift
  if decimal.scale == 0 then .ofInt .double decimal.signedMantissa
  else
    let precision := 10 ^ decimal.scale
    let whole := ofRatio (decimal.mantissa / precision) 1
    let places := ofRatio precision 1
    let fraction := ofRatio (ofRatio (decimal.mantissa % precision) 1).units places.units
    if fraction.isZero then { whole with negative := decimal.negative }
    else
      let sum := ofRatio (whole.units + fraction.units) unit
      let scaled := ofRatio (sum.units * places.units) (unit * unit)
      let rounded := ofRatio ((2 * scaled.units + unit) / (2 * unit)) 1
      { ofRatio rounded.units places.units with negative := decimal.negative }

end Decimal

end ScriptBridge.Number
