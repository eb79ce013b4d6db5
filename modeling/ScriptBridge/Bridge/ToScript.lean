/-
This file marshals host values for script. Every host value has a form there:
primitives become primitives, values held by reference become proxies with one
identity, values held by value become boxed proxies, and script values that were
carried through host code come back as they were. A function of the same engine
behind a delegate is handed back as itself.
-/

import ScriptBridge.Bridge.Proxying

namespace ScriptBridge.Bridge

open Run

/-- The form of a null declared as a type. -/
def exportNull (options : Options) (declared : Host.TypeRef) : Script.Value :=
  let untyped := match declared.underlying with
    | .object | .dynamic | .void => true
    | _ => false
  if options.wrapNullResults && !untyped then .wrappedNull declared
  else match options.nullExport with
    | .null => .null
    | .undefined => .undefined

/-- An integer of the host side as a number: an integer where 64 signed bits hold it. -/
def exportInt (value : Int) : Script.Value :=
  if value < 2 ^ 63 then .int (Int64.ofInt value) else .double (.ofInt .double value)

/-- The items of a host array, marshaled one by one. -/
def exportItems (calls : Calls) (engine : EngineId) (element : Host.TypeRef) :
    List Host.Value → ScriptRun (List Script.Value)
  | [] => return []
  | item :: rest => do
    let converted ← held (calls.toScript engine item element)
    return converted :: (← exportItems calls engine element rest)

/-- A script function of the engine behind a delegate. -/
def ownFunction? (store : Store) (engine : EngineId) (delegate : CellId) : Option CellId :=
  (store.delegateFunction? delegate).filter fun function =>
    (store.function function).engine == engine

/-- A host value for script, given the type it was declared as. -/
def toScript (calls : Calls) (engine : EngineId) (value : Host.Value) (declared : Host.TypeRef) :
    ScriptRun Script.Value := scope do
  holdCells value.cells
  let options := (← Run.engine engine).options
  let asReference : ScriptRun Script.Value := do
    return .proxy (← proxyReference engine value declared .none)
  let asBoxed : ScriptRun Script.Value := do return .proxy (← boxValue engine value .none)
  match value with
  | .undefined => return .undefined
  | .null => return exportNull options declared
  | .bool value => return .bool value
  | .integer value => return exportInt value.value
  | .single value => return .double (Number.Single.toDouble value)
  | .double value => return .double value
  | .decimal value => return .double value.toDouble
  | .char value => return .string value.toString
  | .string value => return .string value
  | .dateTime moment =>
    if options.convertDates then return .date (.ofInt .double moment) else asBoxed
  | .enumeration _ _ | .struct _ _ => asBoxed
  | .buffer cell => return .buffer cell
  | .view view => return .view view
  | .type type => do reserve engine; return .proxy (← findHandle engine type .none)
  | .script handle =>
    match ← readStore (·.handle? handle) with
    | some inner => adopt engine inner
    | none => return .undefined
  | .array cell =>
    if options.arraysByValue then
      let element ← readStore (·.element cell)
      let items ← exportItems calls engine element (← readStore (·.hostItems cell)).toList
      return .array (← create (.scriptArray items.toArray))
    else asReference
  | .delegate cell =>
    match ← readStore fun store => ownFunction? store engine cell with
    | some function => return .function function
    | none => asReference
  | .object _ | .box _ => asReference

end ScriptBridge.Bridge
