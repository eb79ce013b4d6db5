/-
This file reads the scalars that TOML writes without quotes: truth values,
integers in four bases, floating numbers, dates and times. Underscores may stand
between digits, and integers must fit 64 signed bits.
-/

import ScriptBridge.Number.Reading
import ScriptBridge.Text.Blank
import ScriptBridge.Toml.Value

namespace ScriptBridge.Toml

/-! ### Digits -/

/-- Is the character a digit of a base up to 16? -/
def isDigitOf (base : Nat) (character : Char) : Bool :=
  if base ≤ 10 then
    '0' ≤ character && character.toNat < '0'.toNat + base
  else
    character.isDigit || ('a' ≤ character && character ≤ 'f') ||
      ('A' ≤ character && character ≤ 'F')

/-- The value of a digit. -/
def digitValue (character : Char) : Nat :=
  if character.isDigit then character.toNat - '0'.toNat
  else if character.isLower then character.toNat - 'a'.toNat + 10
  else character.toNat - 'A'.toNat + 10

/-- The digits of a text where single underscores stand only between digits. -/
def digits? (base : Nat) (text : List Char) : Option (List Char) :=
  let groups := Text.pieces '_' text
  if groups.all fun group => !group.isEmpty && group.all (isDigitOf base) then
    some groups.flatten
  else none

/-- The number that digits of a base write. -/
def valueOf (base : Nat) (digits : List Char) : Nat :=
  digits.foldl (fun value digit => base * value + digitValue digit) 0

/-! ### Numbers -/

/-- The digits of a whole number in base ten, without needless zeros in front. -/
def wholeDigits? (text : List Char) : Option (List Char) :=
  (digits? 10 text).filter fun digits => digits.length == 1 || digits.head? != some '0'

/-- The integer within 64 signed bits. -/
def fit (value : Int) : Option Value :=
  if -2 ^ 63 ≤ value && value < 2 ^ 63 then some (.integer value) else none

/-- The integer that a text writes. -/
def readInteger? (text : List Char) : Option Value :=
  match text with
  | '0' :: 'x' :: rest => (digits? 16 rest).bind fun digits => fit (valueOf 16 digits)
  | '0' :: 'o' :: rest => (digits? 8 rest).bind fun digits => fit (valueOf 8 digits)
  | '0' :: 'b' :: rest => (digits? 2 rest).bind fun digits => fit (valueOf 2 digits)
  | _ =>
    let (negative, unsigned) := Number.splitSign text
    (wholeDigits? unsigned).bind fun digits =>
      fit (if negative then -(valueOf 10 digits : Int) else valueOf 10 digits)

/-- Splits a text before the first character of a kind. -/
def splitBefore (selects : Char → Bool) (text : List Char) : List Char × List Char :=
  (text.takeWhile fun character => !selects character,
    text.dropWhile fun character => !selects character)

/-- Is the text an exponent with its letter, or nothing? -/
def isExponent (text : List Char) : Bool :=
  match text with
  | [] => true
  | _ :: rest => (digits? 10 (Number.splitSign rest).2).isSome

/-- Is the text a fraction with its point, or nothing? -/
def isFraction (text : List Char) : Bool :=
  match text with
  | [] => true
  | _ :: rest => (digits? 10 rest).isSome

/-- The floating number that a text writes. One that is too large for its format is none. -/
def readFloat? (text : List Char) : Option Value :=
  let (_, unsigned) := Number.splitSign text
  if unsigned == "inf".toList || unsigned == "nan".toList then some .float
  else
    let (mantissa, exponent) :=
      splitBefore (fun character => character == 'e' || character == 'E') unsigned
    let (whole, fraction) := splitBefore (· == '.') mantissa
    if exponent.isEmpty && fraction.isEmpty then none
    else if (wholeDigits? whole).isSome && isFraction fraction && isExponent exponent then
      match Number.readDouble? (text.filter (· != '_')) with
      | some number => if number.isInfinite && !number.negative then none else some .float
      | none => none
    else none

/-! ### Dates and times -/

/-- The number that exactly so many digits write. -/
def fixedNumber? (count : Nat) (text : List Char) : Option Nat :=
  if text.length == count && text.all Char.isDigit then some (valueOf 10 text) else none

/-- The number of days of a month. -/
def daysOf (year month : Nat) : Nat :=
  if month == 2 then
    if year % 4 == 0 && (year % 100 != 0 || year % 400 == 0) then 29 else 28
  else if [4, 6, 9, 11].contains month then 30 else 31

/-- Is the text a date? -/
def isDate (text : List Char) : Bool :=
  match Text.pieces '-' text with
  | [year, month, day] =>
    match fixedNumber? 4 year, fixedNumber? 2 month, fixedNumber? 2 day with
    | some year, some month, some day =>
      1 ≤ month && month ≤ 12 && 1 ≤ day && day ≤ daysOf year month
    | _, _, _ => false
  | _ => false

/-- Is the text a number of two digits of at most the given value? -/
def isPart (greatest : Nat) (text : List Char) : Bool :=
  match fixedNumber? 2 text with
  | some value => value ≤ greatest
  | none => false

/-- Is the text a time of day? -/
def isTime (text : List Char) : Bool :=
  match Text.pieces ':' text with
  | [hour, minute, rest] =>
    let (second, fraction) := splitBefore (· == '.') rest
    isPart 23 hour && isPart 59 minute && isPart 60 second &&
      (fraction.isEmpty || (1 < fraction.length && (fraction.drop 1).all Char.isDigit))
  | _ => false

/-- Is the text a time of day, perhaps with an offset? -/
def isOffsetTime (text : List Char) : Bool :=
  let (time, offset) := splitBefore
    (fun character => ['Z', 'z', '+', '-'].contains character) text
  isTime time &&
    match offset with
    | [] | ['Z'] | ['z'] => true
    | sign :: rest =>
      (sign == '+' || sign == '-') &&
        match Text.pieces ':' rest with
        | [hour, minute] => isPart 23 hour && isPart 59 minute
        | _ => false

/-- The date, time or both that a text writes. -/
def readMoment? (text : List Char) : Option Value :=
  let (date, rest) := (text.take 10, text.drop 10)
  let valid :=
    if isDate date then
      match rest with
      | [] => true
      | mark :: time => ['T', 't', ' '].contains mark && isOffsetTime time
    else isTime text
  if valid then some .moment else none

/-! ### Scalars -/

/-- The value that a text without quotes writes. -/
def readScalar? (text : List Char) : Option Value :=
  if text == "true".toList then some (.flag true)
  else if text == "false".toList then some (.flag false)
  else ((readInteger? text).or (readFloat? text)).or (readMoment? text)

end ScriptBridge.Toml
