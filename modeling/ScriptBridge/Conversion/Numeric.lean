/-
This file converts numbers. Integers reach an integral kind exactly or not at
all and round to the nearest binary number; binary numbers never reach an
integral kind without being asked to drop their fraction, and reach a narrower
kind when it can hold them.
-/

import ScriptBridge.Error
import ScriptBridge.Number.Shortest

namespace ScriptBridge.Conversion

open Number

/-- A numeric conversion. -/
abbrev Converting := Except ConversionError Host.Value

/-- The error of a value outside a kind's range. -/
def outside (value : String) (kind : Kind) : ConversionError := .overflow value kind.name

/-- An integer in a kind. -/
def ofInt (value : Int) (kind : Kind) : Converting :=
  match Host.Value.ofInt? kind value with
  | some converted => .ok converted
  | none => .error (outside (toString value) kind)

/-- Is the number finite and larger than the greatest of the narrower format? -/
def exceedsSingle (number : Double) : Bool :=
  let greatest : Single := .ofMagnitude .single false (Format.single.infinity - 1)
  number.isFinite && (Single.toDouble greatest).magnitude < number.magnitude

/-- A binary number in a kind; integral kinds take none. -/
def ofDouble (number : Double) (kind : Kind) : Converting :=
  match kind with
  | .double => .ok (.double number)
  | .single =>
    if exceedsSingle number then .error (outside number.toText kind)
    else .ok (.single (Double.toSingle number))
  | .decimal =>
    match Decimal.ofDouble? number with
    | some decimal => .ok (.decimal decimal)
    | none => .error (outside number.toText kind)
  | kind => .error (.incompatible ("number " ++ number.toText) kind.name)

/-- A numeric scalar of the host side in a kind. -/
def ofScalar (value : Host.Value) (source kind : Kind) : Converting :=
  if source == kind then .ok value
  else match value with
    | .integer integer => ofInt integer.value kind
    | value =>
      if kind.isIntegral then .error (.incompatible source.name kind.name)
      else ofDouble (value.toDouble?.getD (.nan .double)) kind

/-- A binary number in a kind, without its fraction where the kind is integral. -/
def ofDoubleTruncating (number : Double) (kind : Kind) : Converting :=
  if !kind.isIntegral then ofDouble number kind
  else if !number.isFinite then .error (outside number.toText kind)
  else match Host.Value.ofInt? kind number.truncate with
    | some converted => .ok converted
    | none => .error (outside number.toText kind)

end ScriptBridge.Conversion
