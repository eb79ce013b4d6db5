/-
This file carries out the helper functions offered to script. They take the
arguments as script gives them; one that is missing counts as undefined. Coercions
to an exact kind drop fractions where the kind is integral and fail outside its
range; what they answer with is boxed, so that the kind is not lost.
-/

import ScriptBridge.Binding.Construct
import ScriptBridge.Host.Builtin
import ScriptBridge.Number.Reading

namespace ScriptBridge.Binding

open Host Run Bridge Conversion

/-! ### Arguments -/

/-- The failure of a conversion. -/
def cannotConvert {Result : Type} (actual target : String) : ScriptRun Result :=
  raise (.argumentConversion (.incompatible actual target))

/-- The type that a value is a proxy of. -/
def handledType? (value : Script.Value) : ScriptRun (Option TypeRef) := do
  match value with
  | .proxy cell =>
    match (← readStore (·.proxy cell)).target with
    | .type type => return some type
    | _ => return none
  | _ => return none

/-- The type that an argument is a proxy of. -/
def typeArgument (value : Script.Value) : ScriptRun TypeRef := do
  match ← handledType? value with
  | some type => return type
  | none => cannotConvert (← describe value) "Type"

/-- The length that an argument names. -/
def lengthArgument (value : Script.Value) : ScriptRun Nat := do
  match value.toInt? with
  | some length =>
    if length < 0 then
      raise (.argumentConversion (.overflow (toString length) "array length"))
    else return length.toNat
  | none => cannotConvert (← describe value) "array length"

/-- The text that an argument is. -/
def textArgument (value : Script.Value) : ScriptRun String := do
  match value with
  | .string text => return text
  | other => cannotConvert (← describe other) "String"

/-! ### Coercions -/

/-- A decimal in a kind, without its fraction where the kind is integral. -/
def truncateDecimal (number : Number.Decimal) (kind : Number.Kind) : Converting :=
  match Host.Value.ofInt? kind number.truncate with
  | some converted => .ok converted
  | none => .error (outside number.toText kind)

/-- A host value in exactly a kind, if it is a number or a character. -/
def coerceScalar? (value : Host.Value) (kind : Number.Kind) : Option Converting :=
  match value, value.numericKind? with
  | .single number, _ =>
    if kind.isIntegral then some (ofDoubleTruncating (Number.Single.toDouble number) kind)
    else some (ofScalar value .single kind)
  | .double number, _ =>
    if kind.isIntegral then some (ofDoubleTruncating number kind)
    else some (ofScalar value .double kind)
  | .decimal number, _ =>
    if kind.isIntegral then some (truncateDecimal number kind)
    else some (ofScalar value .decimal kind)
  | .char character, _ => some (Conversion.ofInt character.toNat kind)
  | _, some source => some (ofScalar value source kind)
  | _, none => none

/-- A script value in exactly a kind. -/
def coerce (engine : EngineId) (value : Script.Value) (kind : Number.Kind) :
    ScriptRun Host.Value := do
  let converted : Option Converting ← match value with
    | .int number => pure (some (Conversion.ofInt number.toInt kind))
    | .double number => pure (some (ofDoubleTruncating number kind))
    | .string text =>
      pure ((Number.readDouble? (Text.trim text.toList)).map (ofDoubleTruncating · kind))
    | other => do
      let host ← held (toHostValue engine other)
      pure (coerceScalar? host kind)
  match converted with
  | some (.ok number) => return number
  | some (.error error) => raise (.argumentConversion error)
  | none => cannotConvert (← describe value) kind.name

/-- A script value as a character: a text of one, or the number of one. -/
def coerceChar (engine : EngineId) (value : Script.Value) : ScriptRun Host.Value := do
  match value with
  | .string text =>
    match text.toList with
    | [character] => return .char character
    | _ => cannotConvert (← describe value) "Char"
  | other =>
    let code := ((← coerce engine other .uint16).toInt?.getD 0).toNat
    if code.isValidChar then return .char (Char.ofNat code)
    else cannotConvert (toString code) "Char"

/-! ### Flags -/

/-- The bits of either number. -/
def bitsOfEither (left right : Int) : Int :=
  (BitVec.ofInt 128 left ||| BitVec.ofInt 128 right).toInt

/-- The combination of values of one enumeration whose values combine. -/
def combine (engine : EngineId) :
    Option TypeKey → Int → List Script.Value → ScriptRun (Option TypeKey × Int)
  | type, raw, [] => return (type, raw)
  | type, raw, value :: rest => do
    let table ← types
    let name (key : TypeKey) : String := (table.type key).name
    match ← held (toHostValue engine value), type with
    | .enumeration key bits, some expected =>
      if key == expected then combine engine type (bitsOfEither raw bits) rest
      else cannotConvert (name key) (name expected)
    | .enumeration key bits, none =>
      if (table.type key).isFlags then combine engine (some key) (bitsOfEither raw bits) rest
      else cannotConvert (name key) "flags enum"
    | _, _ => cannotConvert (← describe value) "flags enum"

/-- The combined value of flags, which must fit the kind under the enumeration. -/
def flagsOf (calls : Calls) (engine : EngineId) (values : List Script.Value) :
    ScriptRun Script.Value := do
  match ← combine engine none 0 values with
  | (none, _) => cannotConvert "nothing" "flags enum"
  | (some key, raw) =>
    let type := (← types).type key
    if (Host.Value.ofInt? (type.underlying?.getD .int32) raw).isSome then
      toScript calls engine (.enumeration key raw) (.named key)
    else raise (.argumentConversion (.overflow (toString raw) type.name))

/-! ### Objects -/

/-- Removes a name from a script object or a dynamic host object, and tells whether it was there. -/
def deleteName (engine : EngineId) (object name : Script.Value) : ScriptRun Script.Value := do
  let name ← textArgument name
  match object with
  | .object cell =>
    let properties ← readStore (·.properties cell)
    modifyStore fun store => store.put cell (.scriptObject (properties.erase name))
    return .bool (properties.has name)
  | .proxy proxy =>
    match ← dynamicOf? proxy (← target proxy) (.delete name) with
    | some cell =>
      match ← callHost engine (deleteDynamic cell name) with
      | some found => return .bool found
      | none => raise (.notSupported s!"cannot delete '{name}'")
    | none => raise (.notSupported s!"cannot delete '{name}' from a static host object")
  | other => raise (.notSupported s!"cannot delete '{name}' from {← describe other}")

/-- The value seen without its dynamic capability. -/
def withoutDynamic (engine : EngineId) (value : Script.Value) : ScriptRun Script.Value := do
  match value with
  | .proxy proxy =>
    let contents ← readStore (·.proxy proxy)
    let flags := contents.flags.union .directAccess
    match contents.target with
    | .type _ => return value
    | .boxed _ => return .proxy (← boxValue engine (← target proxy) flags)
    | .reference _ =>
      let declared : TypeRef := match contents.view with
        | some view => .named view
        | none => .object
      return .proxy (← proxyReference engine (← target proxy) declared flags)
  | other => return other

/-- The proxy of the type of a value. -/
def typeOfValue (calls : Calls) (engine : EngineId) (value : Script.Value) :
    ScriptRun Script.Value := do
  match ← handledType? value with
  | some _ => return value
  | none =>
    if value.isNullish then cannotConvert (← describe value) "Type"
    else
      let host ← held (toHostValue engine value)
      toScript calls engine (.type (← readStore (·.typeOf host))) .handle

/-! ### Makers -/

/-- A new host array: of a type if the first argument is one, else of any values. -/
def makeArray (calls : Calls) (engine : EngineId) (arguments : List Script.Value) :
    ScriptRun Script.Value := do
  let (element, length) ← match ← handledType? (arguments[0]?.getD .undefined) with
    | some element => pure (element, arguments[1]?)
    | none => pure (.object, arguments[0]?)
  let length ← match length with
    | some value => lengthArgument value
    | none => pure 0
  toScript calls engine (.array (← newArray element length)) (.array element)

/-- A new script object, or an instance of a type. -/
def makeObject (calls : Calls) (engine : EngineId) (arguments : List Script.Value) :
    ScriptRun Script.Value := do
  match arguments with
  | [] => return .object (← create (.scriptObject []))
  | type :: rest =>
    match type, ← handledType? type with
    | .proxy proxy, some _ => construct calls engine proxy rest
    | other, _ => cannotConvert (← describe other) "Type"

/-- A new box of a type. -/
def makeBox (calls : Calls) (engine : EngineId) (arguments : List Script.Value) :
    ScriptRun Script.Value := do
  let type ← typeArgument (arguments[0]?.getD .undefined)
  let initial ← match arguments[1]? with
    | some value => do pure (← held (converting (toHost engine value type))).value
    | none => do pure ((← types).initial type)
  toScript calls engine (.box (← create (.box type initial))) (.box type)

/-! ### Helpers -/

/-- Carries out a helper function. -/
def runHelper (calls : Calls) (engine : EngineId) (helper : Helper)
    (arguments : List Script.Value) : ScriptRun Script.Value := do
  let first := arguments[0]?.getD .undefined
  let second := arguments[1]?.getD .undefined
  match helper with
  | .cast =>
    let type ← typeArgument first
    let converted ← held (converting (toHost engine second type))
    toScript calls engine converted.value type
  | .isType =>
    let type ← typeArgument first
    let host ← toHostValue engine second
    return .bool (← readStore (·.isInstance host type))
  | .asType =>
    let type ← typeArgument first
    let host ← held (toHostValue engine second)
    if ← readStore (·.isInstance host type) then toScript calls engine host type
    else return .null
  | .delete => deleteName engine first second
  | .newArray => makeArray calls engine arguments
  | .newObject => makeObject calls engine arguments
  | .newBox => makeBox calls engine arguments
  | .flags => flagsOf calls engine arguments
  | .number kind => return .proxy (← boxValue engine (← coerce engine first kind) .none)
  | .char => return .proxy (← boxValue engine (← coerceChar engine first) .none)
  | .typeOf => typeOfValue calls engine first
  | .toStatic => withoutDynamic engine first
  | .isNull => return .bool first.isNullish

/-- Carries out the intrinsic with a number. -/
def runIntrinsic (calls : Calls) (engine : EngineId) (number : Nat)
    (arguments : List Script.Value) : ScriptRun Script.Value :=
  match Helper.ofNumber? number with
  | some helper => runHelper calls engine helper arguments
  | none => raise (.notSupported ("unknown intrinsic " ++ Implementation.numberText number))

end ScriptBridge.Binding
