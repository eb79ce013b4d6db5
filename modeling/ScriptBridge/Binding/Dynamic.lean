/-
This file asks the dynamic capability of an object. Every operation on an object
that has one is offered to it first, unless the item was exposed for direct
access; what it does not handle falls back on the object's members. Values are
shared between names and keys, where the key is the text of all keys joined by
commas.
-/

import ScriptBridge.Bridge.ToHost
import ScriptBridge.Bridge.ToScript
import ScriptBridge.Host.Run

namespace ScriptBridge.Binding

open Host Run Bridge

/-! ### The capability -/

/-- The object behind a target if it has a dynamic capability that the proxy does not pass by. -/
def dynamicIn? (store : Store) (proxy : CellId) (target : Host.Value) : Option CellId :=
  match store.proxy? proxy, target with
  | some contents, .object cell =>
    if contents.flags.contains .directAccess then none
    else ((store.object? cell).bind (·.dynamic)).map fun _ => cell
  | _, _ => none

/-- The object whose capability a request about a target goes to; the history tells that it does. -/
def dynamicOf? (proxy : CellId) (target : Host.Value) (request : Request) :
    ScriptRun (Option CellId) := do
  let found ← readStore (dynamicIn? · proxy target)
  if let some object := found then note (.offered ⟨proxy, object, request⟩)
  return found

/-- The capability of an object. -/
def capability (cell : CellId) : HostRun Dynamic := do
  match ← readStore (·.object? cell) with
  | some { dynamic := some dynamic, .. } => return dynamic
  | _ => return default

/-- Fails for a key that the capability fails for. -/
def checkKey (dynamic : Dynamic) (key : String) : HostRun Unit :=
  if dynamic.failing.contains key then raise (.exception "Exception" ("dynamic " ++ key) none)
  else return ()

/-- Changes the values of a capability. -/
def modifyDynamic (cell : CellId) (change : Named Host.Value → Named Host.Value) :
    HostRun Unit := do
  match ← readStore (·.object? cell) with
  | some object@{ dynamic := some dynamic, .. } =>
    let changed := { dynamic with values := change dynamic.values }
    modifyStore fun store => store.put cell (.object { object with dynamic := some changed })
  | _ => return ()

/-! ### What it handles -/

/-- The value of a key, if reading is handled and there is one. -/
def readDynamic (cell : CellId) (operation : Capability) (key : String) :
    HostRun (Option Host.Value) := do
  let dynamic ← capability cell
  if !dynamic.handled.contains operation then return none
  checkKey dynamic key
  return dynamic.values.get? key

/-- Stores the value of a key, if writing is handled, and tells whether it is. -/
def writeDynamic (cell : CellId) (operation : Capability) (key : String) (value : Host.Value) :
    HostRun Bool := do
  let dynamic ← capability cell
  if !dynamic.handled.contains operation then return false
  checkKey dynamic key
  modifyDynamic cell (·.put key value)
  return true

/-- Removes a key, if removal is handled, and tells whether it was there. -/
def deleteDynamic (cell : CellId) (key : String) : HostRun (Option Bool) := do
  let dynamic ← capability cell
  if !dynamic.handled.contains .delete then return none
  checkKey dynamic key
  modifyDynamic cell (·.erase key)
  return some (dynamic.values.has key)

/-- Runs a body of the capability, if there is one. -/
def runDynamic (calls : Calls) (engine : EngineId) (body : Option Code)
    (arguments : List Host.Value) : HostRun (Option Host.Value) := do
  match body with
  | some code =>
    let (answer, _) ← runCode calls { caller := some engine } arguments code
    return some answer
  | none => return none

/-! ### Offers -/

/-- The text of keys. -/
def keyText (keys : List Host.Value) : ScriptRun String := do
  return ",".intercalate (← valueTexts keys)

/-- What an offer answers script with. -/
def answer (calls : Calls) (engine : EngineId) (found : Option Host.Value) :
    ScriptRun (Option Script.Value) := do
  match found with
  | some value => return some (← toScript calls engine value .object)
  | none => return none

/-- Asks for the value of a name. -/
def askGet (calls : Calls) (engine : EngineId) (name : String) (object : CellId) :
    ScriptRun (Option Script.Value) := do
  answer calls engine (← held (callHost engine (readDynamic object .get name)))

/-- Asks to store the value of a name. -/
def askSet (engine : EngineId) (name : String) (value : Script.Value) (object : CellId) :
    ScriptRun Bool := do
  let converted ← held (toHostValue engine value)
  callHost engine (writeDynamic object .set name converted)

/-- Asks for the value at keys. -/
def askGetIndex (calls : Calls) (engine : EngineId) (keys : List Script.Value) (object : CellId) :
    ScriptRun (Option Script.Value) := do
  let key ← keyText (← toHostValues engine keys)
  answer calls engine (← held (callHost engine (readDynamic object .getIndex key)))

/-- Asks to store the value at keys. -/
def askSetIndex (engine : EngineId) (keys : List Script.Value) (value : Script.Value)
    (object : CellId) : ScriptRun Bool := do
  let key ← keyText (← toHostValues engine keys)
  let converted ← held (toHostValue engine value)
  callHost engine (writeDynamic object .setIndex key converted)

/-- Asks to run one of the bodies of the capability on arguments. -/
def askBody (calls : Calls) (engine : EngineId) (body : Dynamic → Option Code)
    (arguments : List Script.Value) (object : CellId) : ScriptRun (Option Script.Value) := do
  let converted ← toHostValues engine arguments
  let found ← held (callHost engine do
    runDynamic calls engine (body (← capability object)) converted)
  answer calls engine found

/-- Offers a request about a target to the capability that it goes to, if there is one. -/
def offer {Answer : Type} (proxy : CellId) (target : Host.Value) (request : Request)
    (unasked : Answer) (ask : CellId → ScriptRun Answer) : ScriptRun Answer := do
  match ← dynamicOf? proxy target request with
  | some object => ask object
  | none => return unasked

/-- Offers reading a name. -/
def offerGet (calls : Calls) (engine : EngineId) (proxy : CellId) (target : Host.Value)
    (name : String) : ScriptRun (Option Script.Value) :=
  offer proxy target (.get name) none (askGet calls engine name)

/-- Offers writing a name. -/
def offerSet (engine : EngineId) (proxy : CellId) (target : Host.Value) (name : String)
    (value : Script.Value) : ScriptRun Bool :=
  offer proxy target (.set name) false (askSet engine name value)

/-- Offers reading at keys. -/
def offerGetIndex (calls : Calls) (engine : EngineId) (proxy : CellId) (target : Host.Value)
    (keys : List Script.Value) : ScriptRun (Option Script.Value) :=
  offer proxy target .getIndex none (askGetIndex calls engine keys)

/-- Offers writing at keys. -/
def offerSetIndex (engine : EngineId) (proxy : CellId) (target : Host.Value)
    (keys : List Script.Value) (value : Script.Value) : ScriptRun Bool :=
  offer proxy target .setIndex false (askSetIndex engine keys value)

/-- Offers calling a method. -/
def offerInvoke (calls : Calls) (engine : EngineId) (proxy : CellId) (target : Host.Value)
    (name : String) (arguments : List Script.Value) : ScriptRun (Option Script.Value) :=
  offer proxy target (.invoke name) none
    (askBody calls engine (·.methods.get? name) arguments)

/-- Offers calling the object itself. -/
def offerCall (calls : Calls) (engine : EngineId) (proxy : CellId) (target : Host.Value)
    (arguments : List Script.Value) : ScriptRun (Option Script.Value) :=
  offer proxy target .call none (askBody calls engine (·.call) arguments)

/-- The names a dynamic capability provides, sorted. -/
def offeredNames (proxy : CellId) (target : Host.Value) : ScriptRun (List String) :=
  offer proxy target .names [] fun object =>
    readStore fun store =>
      (((store.object? object).bind (·.dynamic)).map (·.values.sortedNames)).getD []

end ScriptBridge.Binding
