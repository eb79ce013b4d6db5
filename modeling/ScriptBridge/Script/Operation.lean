/-
This file holds the operations that script code is made of: globals, members,
indices, calls, texts and numbers of values, and what is thrown. On proxies and
bound members they go to the host; on values of script's own they are carried out
here.
-/

import ScriptBridge.Binding.Invoke

namespace ScriptBridge.Script

open Run Bridge Binding

/-! ### Errors -/

/-- The error of an operation that the type of its operand rules out. -/
def typeError (message : String) : ScriptError := .plain "TypeError" message

/-- The error of looking into what is null or undefined. -/
def nullishError (value : Value) (name : String) : ScriptRun ScriptError := do
  return typeError s!"Cannot read properties of {← describe value} (reading '{name}')"

/-- The error that throwing a value raises: named and worded by the value's properties where it is
an object. -/
def thrownError (document : Document) (value : Value) : ScriptRun ScriptError := do
  let described ← describe value
  let store ← readStore id
  let (name, message) := match value with
    | .string text => ("Error", text)
    | .object cell =>
      (((store.property cell "name").toString?).getD "Error",
        ((store.property cell "message").toString?).getD described)
    | _ => ("Error", described)
  return .fault name message (some document.name) (some value)

/-- What a handler sees of an error: the value thrown, or an object with name and message. -/
def caughtValue (error : ScriptError) : ScriptRun Value :=
  match error with
  | .fault _ _ _ (some thrown) => return thrown
  | other => do
    return .object (← create (.scriptObject
      [("name", .string other.name), ("message", .string other.innermost)]))

/-! ### Globals -/

/-- The first of the items whose members are found as globals that has a name. -/
def findGlobalMember (calls : Calls) (engine : EngineId) (name : String) :
    List CellId → ScriptRun (Option Value)
  | [] => return none
  | proxy :: rest => do
    if (← memberNames engine proxy).contains name then
      return some (← getMember calls engine proxy name)
    else findGlobalMember calls engine name rest

/-- Reads a global. -/
def readGlobal (calls : Calls) (engine : EngineId) (name : String) : ScriptRun Value := do
  let state ← Run.engine engine
  match state.globals.get? name with
  | some value => return value
  | none =>
    holdCells state.globalMembers
    match ← findGlobalMember calls engine name state.globalMembers with
    | some value => return value
    | none => raise (.plain "ReferenceError" s!"{name} is not defined")

/-- Writes a global; the engine gets a proxy of its own. -/
def writeGlobal (engine : EngineId) (name : String) (value : Value) : ScriptRun Unit := scope do
  let own ← adopt engine value
  modifyEngine engine fun engine => { engine with globals := engine.globals.put name own }

/-! ### Members -/

/-- Reads a property. -/
def getProperty (calls : Calls) (engine : EngineId) (target : Value) (name : String) :
    ScriptRun Value := do
  let store ← readStore id
  let number (count : Nat) : Value := .int (Int64.ofNat count)
  match target, name with
  | .proxy proxy, _ => getMember calls engine proxy name
  | .member cell, _ => getBound (store.member cell) name
  | .object cell, _ => return store.property cell name
  | .array cell, "length" => return number (store.scriptItems cell).size
  | .string text, "length" => return number text.length
  | .function cell, "name" => return .string (store.function cell).name
  | .buffer cell, "byteLength" => return number (store.bytes cell).size
  | .view view, "length" => return number view.window.elementCount
  | .view view, "byteLength" => return number view.window.length
  | .view view, "buffer" => return .buffer view.buffer
  | other, _ => if other.isNullish then raise (← nullishError other name) else return .undefined

/-- Writes a property. -/
def setProperty (calls : Calls) (engine : EngineId) (target : Value) (name : String)
    (value : Value) : ScriptRun Unit := do
  match target with
  | .proxy proxy => setMember calls engine proxy name value
  | .object cell =>
    modifyStore fun store =>
      store.put cell (.scriptObject ((store.properties cell).put name value))
  | other => raise (typeError s!"Cannot set property '{name}' of {← describe other}")

/-- Calls a property. -/
def invokeProperty (calls : Calls) (engine : EngineId) (target : Value) (name : String)
    (arguments : List Value) : ScriptRun Value := do
  match target with
  | .proxy proxy => invoke calls engine proxy name arguments
  | .member cell => invokeBound calls engine (← readStore (·.member cell)) name arguments
  | .object cell =>
    let callee ← readStore (·.property cell name)
    if callee.isUndefined then raise (typeError s!"{name} is not a function")
    else callValue calls engine callee arguments
  | other =>
    if other.isNullish then raise (← nullishError other name)
    else raise (typeError s!"{← describe other}.{name} is not a function")

/-- Assigns through a call of a property. -/
def assignThroughProperty (calls : Calls) (engine : EngineId) (target : Value) (name : String)
    (keys : List Value) (value : Value) : ScriptRun Unit := do
  match target with
  | .proxy proxy => assignMember calls engine proxy name keys value
  | other => raise (.notSupported s!"cannot assign through {← describe other}.{name}")

/-! ### Indices -/

/-- The place that an integer value names. -/
def placeOf? (key : Value) : Option Nat :=
  (key.toInt?.filter (0 ≤ ·)).map Int.toNat

/-- The error of indexing what has no elements. -/
def notIndexable (value : Value) : ScriptRun ScriptError := do
  return typeError s!"{← describe value} is not indexable"

/-- Reads an element of a window. -/
def getElement (view : BufferView) (place : Nat) : ScriptRun Value := do
  match view.window.element (← readStore (·.bytes view.buffer)) place with
  | .ok number => return .double number
  | .error fault => raise (.range (HostError.range fault.message).message)

/-- Reads at keys. -/
def readIndex (calls : Calls) (engine : EngineId) (target : Value) (keys : List Value) :
    ScriptRun Value := do
  match target, keys with
  | .proxy proxy, _ => getIndex calls engine proxy keys
  | .array cell, [key] =>
    match placeOf? key with
    | some place => return ((← readStore (·.scriptItems cell))[place]?).getD .undefined
    | none => return .undefined
  | .view view, [key] =>
    match placeOf? key with
    | some place => getElement view place
    | none => return .undefined
  | other, [.string name] => getProperty calls engine other name
  | other, _ => raise (← notIndexable other)

/-- Sets an element of a script array, which grows by undefined as needed. -/
def setItem (cell : CellId) (place : Nat) (value : Value) : ScriptRun Unit := do
  let items ← readStore (·.scriptItems cell)
  let grown := items ++ Array.replicate (place + 1 - items.size) .undefined
  modifyStore fun store => store.put cell (.scriptArray (grown.setIfInBounds place value))

/-- Sets an element of a window. -/
def setElement (view : BufferView) (key value : Value) : ScriptRun Unit := do
  match placeOf? key, value.toDouble? with
  | none, _ => raise (.range s!"invalid index {← describe key}")
  | some _, none => raise (typeError s!"{← describe value} is not a number")
  | some place, some number =>
    match view.window.setElement (← readStore (·.bytes view.buffer)) place number with
    | .ok bytes => modifyStore fun store => store.put view.buffer (.buffer bytes)
    | .error fault => raise (.range (HostError.range fault.message).message)

/-- Writes at keys. -/
def writeIndex (calls : Calls) (engine : EngineId) (target : Value) (keys : List Value)
    (value : Value) : ScriptRun Unit := do
  match target, keys with
  | .proxy proxy, _ => setIndex calls engine proxy keys value
  | .array cell, [key] =>
    match placeOf? key with
    | some place => setItem cell place value
    | none => raise (.range s!"invalid array index {← describe key}")
  | .object _, [.string name] => setProperty calls engine target name value
  | .view view, [key] => setElement view key value
  | other, _ => raise (← notIndexable other)

/-! ### Instances and names -/

/-- Makes an instance of a type. -/
def constructValue (calls : Calls) (engine : EngineId) (callee : Value) (arguments : List Value) :
    ScriptRun Value := do
  match callee, ← handledType? callee with
  | .proxy proxy, some _ => construct calls engine proxy arguments
  | other, _ => raise (typeError s!"{← describe other} is not a constructor")

/-- The names that can be listed on a value. -/
def namesOf (engine : EngineId) (target : Value) : ScriptRun (List String) := do
  match target with
  | .proxy proxy => memberNames engine proxy
  | .object cell => return (← readStore (·.properties cell)).sortedNames
  | .array cell => return (List.range (← readStore (·.scriptItems cell)).size).map toString
  | _ => return []

/-! ### Texts and numbers -/

/-- The text of a number in script: whole ones below 10 ^ 15 without a point, infinity by name. -/
def numberText (number : Number.Double) : String :=
  if number.isNaN then "NaN"
  else if number.isInfinite then (if number.negative then "-Infinity" else "Infinity")
  else if number.isWhole && number.truncate.natAbs < 10 ^ 15 then toString number.truncate
  else number.toText

/-- The texts of values. -/
def textsOf (calls : Calls) (engine : EngineId) : List Value → ScriptRun (List String)
  | [] => return []
  | value :: rest => do
    let text ← calls.toText engine value
    return text :: (← textsOf calls engine rest)

/-- The text of a value. -/
def textOf (calls : Calls) (engine : EngineId) (value : Value) : ScriptRun String := scope do
  holdCells value.cells
  match value with
  | .undefined => return "undefined"
  | .null | .wrappedNull _ => return "null"
  | .bool flag => return toString flag
  | .int number => return toString number.toInt
  | .double number => return numberText number
  | .string text => return text
  | .proxy proxy => return ((← invoke calls engine proxy toStringName []).toString?).getD ""
  | .array cell =>
    let items ← readStore (·.scriptItems cell)
    return ",".intercalate (← textsOf calls engine items.toList)
  | .object _ => return "[object Object]"
  | other => describe other

/-- The number a text stands for; blank text is zero. -/
def numberOfText (text : String) : Number.Double :=
  let trimmed := Text.trim text.toList
  if trimmed.isEmpty then default else (Number.readDouble? trimmed).getD (.nan .double)

/-- The number of a value. -/
def numberOf (engine : EngineId) (value : Value) : ScriptRun Number.Double := do
  match value with
  | .int number => return .ofInt .double number.toInt
  | .double number => return number
  | .bool flag => return .ofInt .double (if flag then 1 else 0)
  | .null | .wrappedNull _ => return default
  | .string text => return numberOfText text
  | .date millis => return millis
  | .proxy _ => return ((← toHostValue engine value).toDouble?).getD (.nan .double)
  | _ => return .nan .double

end ScriptBridge.Script
