/-
This file reads numbers from text. Integers are an optional sign and decimal
digits within 64 signed bits. Binary numbers are an optional sign and either a
name of an infinity or NaN, in any case, or digits with an optional point and
an optional power of ten; at least one digit must stand around the point. The
value is rounded once, from the exact decimal.
-/

import ScriptBridge.Number.Binary

namespace ScriptBridge.Number

/-! ### Digits and signs -/

/-- The digit's value added to ten times the value so far. -/
def pushDigit (value : Nat) (digit : Char) : Nat := 10 * value + (digit.toNat - '0'.toNat)

/-- The value of a run of decimal digits. -/
def digitsValue (digits : List Char) : Nat := digits.foldl pushDigit 0

/-- A leading sign split off; a plus sign and no sign mean the same. -/
def splitSign : List Char → Bool × List Char
  | '-' :: rest => (true, rest)
  | '+' :: rest => (false, rest)
  | text => (false, text)

/-- A nonempty run of digits with an optional sign, as an integer. -/
def readInteger? (text : List Char) : Option Int :=
  let (negative, digits) := splitSign text
  if digits.isEmpty || !digits.all Char.isDigit then none
  else some (if negative then -(digitsValue digits : Int) else digitsValue digits)

/-- An integer of 64 signed bits. -/
def readInt64? (text : List Char) : Option Int64 :=
  (readInteger? text).bind fun value =>
    if -2 ^ 63 ≤ value && value < 2 ^ 63 then some (Int64.ofInt value) else none

/-! ### Binary numbers -/

/-- A decimal as written: the digits' value and a power of ten. -/
structure Scientific where
  digits : Nat
  power : Int

/-- Digits, an optional point with digits, and an optional power of ten. -/
def readScientific? (text : List Char) : Option Scientific :=
  let whole := text.takeWhile Char.isDigit
  let afterWhole := text.dropWhile Char.isDigit
  let (fraction, afterFraction) := match afterWhole with
    | '.' :: rest => (rest.takeWhile Char.isDigit, rest.dropWhile Char.isDigit)
    | rest => ([], rest)
  if whole.isEmpty && fraction.isEmpty then none
  else
    let digits := digitsValue (whole ++ fraction)
    let places : Int := fraction.length
    match afterFraction with
    | [] => some ⟨digits, -places⟩
    | mark :: rest =>
      if mark == 'e' || mark == 'E' then
        (readInteger? rest).map fun power => ⟨digits, power - places⟩
      else none

/-- The number nearest to a decimal. Powers far outside the format's range are settled without
computing them. -/
def Scientific.toBinary (format : Format) (negative : Bool) (decimal : Scientific) :
    Binary format :=
  let size : Int := (Nat.toDigits 10 decimal.digits).length
  if decimal.digits == 0 then Binary.ofMagnitude format negative 0
  else if 400 < size + decimal.power then Binary.infinite format negative
  else if size + decimal.power < -400 then Binary.ofMagnitude format negative 0
  else match decimal.power with
    | .ofNat power => Binary.ofQuotient format negative (decimal.digits * 10 ^ power) 1
    | .negSucc power => Binary.ofQuotient format negative decimal.digits (10 ^ (power + 1))

/-- The 64-bit number that the text stands for. -/
def readDouble? (text : List Char) : Option Double :=
  let (negative, rest) := splitSign text
  let name := rest.map Char.toLower
  if name == "inf".toList || name == "infinity".toList then some (.infinite .double negative)
  else if name == "nan".toList then some { Binary.nan .double with negative := negative }
  else (readScientific? rest).map (Scientific.toBinary .double negative)

end ScriptBridge.Number
