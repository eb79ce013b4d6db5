/-
This file converts script values to host values. A declared type drives the
conversion, which reports the rule it needed and a penalty among equal rules; an
untyped target takes every value, carrying through untouched what has no form of
its own on the host side. Script arrays become fresh host arrays, item by item,
and script functions become delegates.
-/

import ScriptBridge.Bridge.Frame
import ScriptBridge.Conversion.Numeric
import ScriptBridge.Conversion.Rule

namespace ScriptBridge.Bridge

open Run Conversion

/-- The outcome of a conversion. -/
structure Converted where
  value : Host.Value
  rule : Rule
  penalty : Nat := 0
  deriving Inhabited

instance : HoldsCells Converted := ⟨fun converted => converted.value.cells⟩

/-- What conversions do. -/
abbrev ConversionRun := Run ConversionError

/-- A conversion as part of a script operation. -/
def converting {Result : Type} (run : ConversionRun Result) : ScriptRun Result :=
  mapFailure (fun _ error => .argumentConversion error) run

/-- The penalty of an untyped target; a late-bound one ranks after a plain one. -/
def boxPenalty : Host.TypeRef → Nat
  | .object => 1
  | .dynamic => 2
  | _ => 0

/-- The moment of a script date: its whole milliseconds, where the calendar can write them. -/
def momentOf? (millis : Number.Double) : Option Calendar.Moment :=
  if millis.isFinite then
    some (millis.clampToInt (-2 ^ 63) (2 ^ 63 - 1)) |>.filter Calendar.isRepresentable
  else none

/-- The host value behind a proxy, while it can be reached. -/
def boxedValue? (value : Script.Value) : Run Failure (Option Host.Value) :=
  match value with
  | .proxy cell => do return (← observe (·.targetOf cell)).toOption
  | _ => return none

/-! ### Untyped targets -/

/-- A script value carried through host code. -/
def carry {Failure : Type} (value : Script.Value) : Run Failure Host.Value := do
  return .script (← create (.handle value))

/-- A script integer for an untyped target. -/
def plainInt (value : Int) : Host.Value :=
  (Host.Value.ofInt? (scriptIntKind value) value).getD .null

/-- A script value for an untyped target. -/
def toHostValue {Failure : Type} (engine : EngineId) (value : Script.Value) :
    Run Failure Host.Value := do
  match value with
  | .undefined => return .undefined
  | .null | .wrappedNull _ => return .null
  | .bool value => return .bool value
  | .int value => return plainInt value.toInt
  | .double value => return .double value
  | .string value => return .string value
  | .date millis =>
    match (← Run.engine engine).options.convertDates, momentOf? millis with
    | true, some moment => return .dateTime moment
    | _, _ => carry value
  | .buffer cell => return .buffer cell
  | .view view => return .view view
  | .proxy cell =>
    match ← observe (·.targetOf cell) with
    | .ok target => hold target
    | .error _ => return .null
  | other => carry other

/-- Script values for untyped targets. -/
def toHostValues {Failure : Type} (engine : EngineId) :
    List Script.Value → Run Failure (List Host.Value)
  | [] => return []
  | value :: rest => do
    let converted ← toHostValue engine value
    return converted :: (← toHostValues engine rest)

/-! ### Declared targets -/

/-- The error of a value that has no form in the target. -/
def incompatible {Result : Type} (value : Script.Value) (target : Host.TypeRef) :
    ConversionRun Result := do
  raise (.incompatible (← describe value) ((← types).display target))

/-- A script function as a delegate of a type. -/
def delegateFor (function : CellId) (type : Host.TypeKey) : ConversionRun CellId := do
  let table ← types
  if (table.type type).isDelegate then create (.delegate type (.function function))
  else
    raise (.incompatible s!"function {(← readStore (·.function function)).name}"
      (table.type type).name)

/-- A script value in a numeric kind. -/
def toNumeric (value : Script.Value) (boxed : Option Host.Value) (kind : Number.Kind) :
    ConversionRun Converted := do
  let refuse : ConversionRun Converted := incompatible value (.numeric kind)
  match value, boxed with
  | .int value, _ =>
    let converted ← ofExcept (Conversion.ofInt value.toInt kind)
    return ⟨converted, scriptIntRule value.toInt kind, numericPenalty kind⟩
  | .double number, _ =>
    let rule := scriptDoubleRule kind
    if !rule.isAllowed then refuse
    else return ⟨← ofExcept (Conversion.ofDouble number kind), rule, numericPenalty kind⟩
  | _, some host =>
    match host.numericKind? with
    | some source =>
      let rule := numericRule source kind
      if !rule.isAllowed then raise (.incompatible source.name kind.name)
      else return ⟨← ofExcept (Conversion.ofScalar host source kind), rule, numericPenalty kind⟩
    | none => refuse
  | _, none => refuse

/-- The number of bases between a value's type and the type it is taken as; for an interface, the
length of the whole chain. -/
def chainDistance (table : Host.TypeTable) (actual : Host.TypeRef) (expected : Host.TypeKey) :
    Nat :=
  match actual with
  | .named key => (table.chain key).findIdx (· == expected)
  | _ => 0

/-- A script value as a registered type. -/
def toNamed (value : Script.Value) (boxed : Option Host.Value) (key : Host.TypeKey) :
    ConversionRun Converted := do
  let store ← readStore id
  let taken := boxed.filter fun host => store.isInstance host (.named key)
  match taken, value with
  | some host, _ => return ⟨host, .exact, chainDistance store.types (store.typeOf host) key⟩
  | none, .function function =>
    if (store.types.type key).isDelegate then
      return ⟨.delegate (← delegateFor function key), .widening, 0⟩
    else incompatible value (.named key)
  | none, _ => incompatible value (.named key)

/-- The items of a script array, converted one by one; the rule is the worst. -/
def convertItems (convert : Script.Value → ConversionRun Converted) (rule : Rule) :
    List Script.Value → ConversionRun (List Host.Value × Rule)
  | [] => return ([], rule)
  | item :: rest => do
    let converted ← held (convert item)
    let (others, worst) ← convertItems convert (rule.worse converted.rule) rest
    return (converted.value :: others, worst)

/-- A null or undefined for a declared type. -/
def toHostNullish (value : Script.Value) (target : Host.TypeRef) : ConversionRun Converted := do
  let untyped := target == .object || target == .dynamic
  if untyped && value.isUndefined then return ⟨.undefined, .exact, boxPenalty target⟩
  else if (← types).acceptsNull target then return ⟨.null, .exact, boxPenalty target⟩
  else incompatible value target

/-- A script value as a host array of an element type: one that is behind it, or a new one with the
items of a script array. -/
def toArray (convert : Script.Value → ConversionRun Converted) (value : Script.Value)
    (boxed : Option Host.Value) (element : Host.TypeRef) : ConversionRun Converted := do
  let store ← readStore id
  let taken := boxed.filter fun host => store.typeOf host == .array element
  match taken, value with
  | some host, _ => return ⟨host, .exact, 0⟩
  | none, .array cell =>
    let (items, rule) ← convertItems convert .widening (store.scriptItems cell).toList
    return ⟨.array (← create (.hostArray element items.toArray)), rule, 0⟩
  | none, _ => incompatible value (.array element)

/-- A script value as a box of a type. -/
def toBox (value : Script.Value) (boxed : Option Host.Value) (inner : Host.TypeRef) :
    ConversionRun Converted := do
  let store ← readStore id
  match boxed.filter fun host => store.typeOf host == .box inner with
  | some host => return ⟨host, .exact, 0⟩
  | none => incompatible value (.box inner)

/-- A script value as a type that is neither numeric nor registered nor made of others. -/
def toPlain (value : Script.Value) (boxed : Option Host.Value) (target : Host.TypeRef) :
    ConversionRun Converted := do
  match target, value, boxed with
  | .bool, .bool flag, _ => return ⟨.bool flag, .exact, 0⟩
  | .bool, _, some (.bool flag) => return ⟨.bool flag, .exact, 0⟩
  | .char, .string text, _ =>
    match text.toList with
    | [character] => return ⟨.char character, .widening, 0⟩
    | _ => incompatible value target
  | .char, _, some (.char character) => return ⟨.char character, .exact, 0⟩
  | .string, .string text, _ => return ⟨.string text, .exact, 0⟩
  | .dateTime, .date millis, _ =>
    match momentOf? millis with
    | some moment => return ⟨.dateTime moment, .exact, 0⟩
    | none => raise (.overflow millis.toText ((← types).display target))
  | .dateTime, _, some (.dateTime moment) => return ⟨.dateTime moment, .exact, 0⟩
  | .buffer, .buffer cell, _ => return ⟨.buffer cell, .exact, 0⟩
  | .view, .view view, _ => return ⟨.view view, .exact, 0⟩
  | .handle, _, some (.type type) => return ⟨.type type, .exact, 0⟩
  | _, _, _ => incompatible value target

/-- A script value as a declared type. -/
def toHost (engine : EngineId) (value : Script.Value) (target : Host.TypeRef) :
    ConversionRun Converted := do
  if value.isNullish then toHostNullish value target
  else
    let boxed ← held (boxedValue? value)
    match target with
    | .nullable inner => toHost engine value inner
    | .object | .dynamic => return ⟨← toHostValue engine value, .widening, boxPenalty target⟩
    | .numeric kind => toNumeric value boxed kind
    | .named key => toNamed value boxed key
    | .array element => toArray (fun item => toHost engine item element) value boxed element
    | .box inner => toBox value boxed inner
    | plain => toPlain value boxed plain

end ScriptBridge.Bridge
