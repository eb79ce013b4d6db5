/-
This file writes binary numbers with the fewest decimal digits that read back.
The numbers that round to a given one form an interval around it, closed when
its magnitude is even. For one digit, two digits and so on, the two neighbours
of the value on that decimal grid are tested against the interval; the first
grid with a hit gives the digits. Around them stand two layouts: the plain one,
always positional, and the detailed one, which keeps a fraction on whole
numbers and turns to powers of ten for very large and very small values.
-/

import ScriptBridge.Number.Binary

namespace ScriptBridge.Number

/-! ### Digits -/

/-- Decimal digits with the place of the point: the value is the digits, read as a whole number,
times ten to the power of the exponent less their count. -/
structure Digits where
  digits : List Char
  exponent : Int
  deriving DecidableEq, Repr

namespace Binary

variable {format : Format}

/-- A decimal grid: its spacing as a quotient. -/
private def gridSpacing (power : Int) : Nat × Nat :=
  match power with
  | .ofNat power => (10 ^ power, 1)
  | .negSucc power => (1, 10 ^ (power + 1))

/-- The least power of ten above a positive finite number. -/
def decimalExponent (number : Binary format) : Int :=
  let below (power : Int) : Bool :=
    let (numerator, denominator) := gridSpacing power
    number.units * denominator < numerator * 2 ^ format.unitShift
  let estimate := (((number.units.log2 : Int) - format.unitShift) * 30103).fdiv 100000 - 1
  let candidates := (List.range 5).map fun (offset : Nat) => estimate + (offset : Int)
  (candidates.find? below).getD (estimate + 5)

/-- The multiple of the grid's spacing that reads back as the number and is nearest to it,
the upper one in a tie; none if neither neighbour on the grid reads back. -/
def gridHit? (number : Binary format) (power : Int) : Option Nat :=
  let (numerator, denominator) := gridSpacing power
  -- everything is scaled by four, so that half and quarter steps are whole
  let scale := numerator * 2 ^ format.unitShift * 4
  let value := number.units * 4 * denominator
  let atBinade := number.magnitude % 2 ^ format.fractionBits == 0 &&
    2 ^ (format.fractionBits + 1) ≤ number.magnitude
  let lowest := value - (if atBinade then 1 else 2) * number.step * denominator
  let highest := value + 2 * number.step * denominator
  let closed := number.magnitude % 2 == 0
  let lower := value / scale
  let upper := lower + 1
  let lowerHits := lowest < lower * scale || (closed && lowest == lower * scale)
  let upperHits := upper * scale < highest || (closed && upper * scale == highest)
  match lowerHits, upperHits with
  | true, true => some (if value - lower * scale < upper * scale - value then lower else upper)
  | true, false => some lower
  | false, true => some upper
  | false, false => none

/-- The fewest digits that read back as a positive finite number. No number needs more than
seventeen. -/
def shortest (number : Binary format) : Digits :=
  let exponent := number.decimalExponent
  let counts := (List.range 17).map fun (count : Nat) => (count : Int) + 1
  let hit := counts.findSome? fun count =>
    (number.gridHit? (exponent - count)).map fun multiple => (count, multiple)
  match hit with
  | none => ⟨['0'], 0⟩
  | some (count, multiple) =>
    let written := Nat.toDigits 10 multiple
    let kept := (written.reverse.dropWhile (· == '0')).reverse
    ⟨kept, exponent - count + written.length⟩

end Binary

/-! ### Layouts -/

namespace Digits

/-- Positional writing, with a fraction only where digits stand right of the point. -/
def positional (written : Digits) : List Char :=
  let count : Int := written.digits.length
  if written.exponent ≤ 0 then
    '0' :: '.' :: (List.replicate (-written.exponent).toNat '0' ++ written.digits)
  else if count ≤ written.exponent then
    written.digits ++ List.replicate (written.exponent - count).toNat '0'
  else
    written.digits.take written.exponent.toNat ++ '.' :: written.digits.drop written.exponent.toNat

/-- Writing with one digit left of the point and a power of ten. -/
def scientific (written : Digits) : List Char :=
  let power := (toString (written.exponent - 1)).toList
  match written.digits with
  | [] => '0' :: 'e' :: power
  | [digit] => digit :: 'e' :: power
  | digit :: rest => digit :: '.' :: rest ++ 'e' :: power

end Digits

namespace Binary

variable {format : Format}

private def signText (number : Binary format) : String := if number.negative then "-" else ""

/-- The plain text of a number: positional, whole numbers without a point. -/
def toText (number : Binary format) : String :=
  if number.isNaN then "NaN"
  else if number.isInfinite then number.signText ++ "inf"
  else if number.isZero then number.signText ++ "0"
  else number.signText ++ String.ofList number.shortest.positional

/-- The detailed text of a number: whole numbers keep a zero fraction, and from ten to the 16th
up and below ten to the minus 4th powers of ten are written. -/
def toDetailedText (number : Binary format) : String :=
  if number.isNaN then "NaN"
  else if number.isInfinite then number.signText ++ "inf"
  else if number.isZero then number.signText ++ "0.0"
  else
    let written := number.shortest
    if written.exponent < -3 || 16 < written.exponent then
      number.signText ++ String.ofList written.scientific
    else if (written.digits.length : Int) ≤ written.exponent then
      number.signText ++ String.ofList written.positional ++ ".0"
    else number.signText ++ String.ofList written.positional

end Binary

end ScriptBridge.Number
