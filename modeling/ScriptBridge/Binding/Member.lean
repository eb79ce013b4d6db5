/-
This file reads and writes members of host values. Hidden and unknown members
read as undefined and cannot be written; methods, indexers and events read as
values bound to the proxy, which find their target anew when they are used.
Arrays have a length and boxes a value; a type also answers to the names of its
nested types and constants.
-/

import ScriptBridge.Binding.Dynamic
import ScriptBridge.Binding.Target

namespace ScriptBridge.Binding

open Host Run Bridge

/-! ### Accessors -/

/-- What the getter of a member answers. Accessors run detached from the engine. -/
def readAccessor (calls : Calls) (engine : EngineId) (scene : Scene) (slot : Slot) (get : Body)
    (keys : List Host.Value) : ScriptRun Host.Value :=
  callHost engine do
    return (← useBody calls scene slot .read get { self := scene.subject.self } keys).1

/-- Assigns through the setter of a member. -/
def writeAccessor (calls : Calls) (engine : EngineId) (scene : Scene) (slot : Slot) (set : Body)
    (keys : List Host.Value) (value : Host.Value) : ScriptRun Unit :=
  callHost engine do
    let setting : Setting := { self := scene.subject.self, assigned := some value }
    discard (useBody calls scene slot .write set setting keys)

/-! ### Reading -/

/-- A member bound to a proxy. -/
def bound (proxy : CellId) (name : String) (kind : BoundKind) : ScriptRun Script.Value := do
  return .member (← create (.member ⟨proxy, name, kind⟩))

/-- The value of a field or property. -/
def readData (calls : Calls) (engine : EngineId) (scene : Scene) (slot : Slot) :
    ScriptRun Script.Value := do
  let type := slot.declaration.type
  match slot.implementation.implementation, scene.subject.self with
  | .accessor (some get) _, _ =>
    let value ← held (readAccessor calls engine scene slot get [])
    toScript calls engine value type
  | .accessor none _, _ => return .undefined
  | .structField place, .struct _ fields =>
    note (.used ⟨scene, slot, .readField place⟩)
    toScript calls engine (fields[place]?.getD .null) type
  | .structField _, self => raise (.notSupported s!"'{← typeText self}' is not a struct")
  | _, _ =>
    raise (.notSupported s!"member '{slot.declaration.scriptName}' has no implementation")

/-- What a slot reads as. -/
def readSlot (calls : Calls) (engine : EngineId) (scene : Scene) (slot : Slot) :
    ScriptRun Script.Value := scope do
  let name := slot.declaration.scriptName
  match slot.declaration.kind with
  | .method => bound scene.proxy name .method
  | .indexer => bound scene.proxy name .indexer
  | .event => bound scene.proxy name .event
  | .constructor => return .undefined
  | .field | .property => readData calls engine scene slot

/-- The name of the conversion to text that every host value answers to. -/
def toStringName : String := "ToString"

/-- Is the name that of an array's length? -/
def isLengthName (name : String) : Bool := name == "length" || name == "Length"

/-- Is the name that of a box's value? -/
def isValueName (name : String) : Bool := name == "value" || name == "Value"

/-- What every subject of its sort answers to a name that is no member. -/
def readOther (calls : Calls) (engine : EngineId) (proxy : CellId) (subject : Subject)
    (name : String) : ScriptRun Script.Value := do
  let store ← readStore id
  let general : ScriptRun Script.Value :=
    if name == toStringName then bound proxy name .method else return .undefined
  match subject with
  | .statics (.named key) =>
    match store.types.findNested? key name, (store.types.type key).constant? name with
    | some nested, _ => toScript calls engine (.type (.named nested)) .handle
    | none, some raw => toScript calls engine (.enumeration key raw) (.named key)
    | none, none => general
  | .plain (.array cell) =>
    if isLengthName name then return .int (Int64.ofNat (store.hostItems cell).size) else general
  | .plain (.box cell) =>
    if isValueName name then toScript calls engine (store.boxValue cell) (store.boxType cell)
    else general
  | _ => general

/-- Reads a name on a proxy, without asking a dynamic capability. -/
def getStatic (calls : Calls) (engine : EngineId) (proxy : CellId) (name : String) :
    ScriptRun Script.Value := do
  let scene ← look engine proxy
  match (scene.lookup name).visible with
  | slot :: _ => readSlot calls engine scene slot
  | [] => readOther calls engine proxy scene.subject name

/-- Reads a name on a proxy. -/
def getMember (calls : Calls) (engine : EngineId) (proxy : CellId) (name : String) :
    ScriptRun Script.Value := scope do
  holdCells [proxy]
  let current ← target proxy
  match ← offerGet calls engine proxy current name with
  | some value => return value
  | none => getStatic calls engine proxy name

/-! ### Writing -/

/-- Replaces a field of the struct that a proxy holds. -/
def writeField (scene : Scene) (slot : Slot) (name : String) (place : Nat) (value : Host.Value) :
    ScriptRun Unit := do
  let contents ← readStore (·.proxy scene.proxy)
  match contents.target with
  | .boxed (.struct type fields) =>
    if place < fields.length then
      let changed := { contents with target := .boxed (.struct type (fields.set place value)) }
      note (.used ⟨scene, slot, .writeField place⟩)
      modifyStore fun store => store.put scene.proxy (.proxy changed)
    else raise (.missingMember name)
  | _ => raise (.notSupported s!"'{name}' is not a boxed struct")

/-- Writes a field or property that script may write. -/
def writeSlot (calls : Calls) (engine : EngineId) (scene : Scene) (slot : Slot) (name : String)
    (value : Script.Value) : ScriptRun Unit := do
  let converted ← held (converting (toHost engine value slot.declaration.type))
  match slot.implementation.implementation with
  | .accessor _ (some set) => writeAccessor calls engine scene slot set [] converted.value
  | .structField place => writeField scene slot name place converted.value
  | _ => raise (.accessDenied s!"'{name}' is read-only")

/-- Writes a name that may be a member. -/
def setSlot (calls : Calls) (engine : EngineId) (scene : Scene) (name : String)
    (value : Script.Value) : ScriptRun Unit :=
  match (scene.lookup name).visible with
  | [] => raise (.missingMember name)
  | slot :: _ =>
    if !slot.declaration.isData then
      raise (.accessDenied s!"cannot assign to {slot.declaration.kind.name} '{name}'")
    else if !scene.sight.mayWrite slot || !slot.implementation.implementation.isWritable then
      raise (.accessDenied s!"'{name}' is read-only")
    else writeSlot calls engine scene slot name value

/-- Puts a value into a box, converted to the box's type. -/
def writeBox (engine : EngineId) (box : CellId) (value : Script.Value) : ScriptRun Unit := do
  let type ← readStore (·.boxType box)
  let converted ← held (converting (toHost engine value type))
  modifyStore fun store => store.setBox box converted.value

/-- Writes a name on a proxy, without asking a dynamic capability. -/
def setStatic (calls : Calls) (engine : EngineId) (proxy : CellId) (name : String)
    (value : Script.Value) : ScriptRun Unit := do
  let scene ← look engine proxy
  match scene.subject, isValueName name with
  | .plain (.box box), true => writeBox engine box value
  | _, _ => setSlot calls engine scene name value

/-- Writes a name on a proxy. -/
def setMember (calls : Calls) (engine : EngineId) (proxy : CellId) (name : String)
    (value : Script.Value) : ScriptRun Unit := scope do
  holdCells (proxy :: value.cells)
  let current ← target proxy
  if ← offerSet engine proxy current name value then return ()
  setStatic calls engine proxy name value

end ScriptBridge.Binding
