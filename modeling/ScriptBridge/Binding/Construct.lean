/-
This file makes new instances. A type is constructed by the best of its visible
constructors; a struct without one starts from its initial value; a delegate type
wraps a script function; an array type takes a length.
-/

import ScriptBridge.Binding.Member
import ScriptBridge.Binding.Overload

namespace ScriptBridge.Binding

open Host Run Bridge Conversion

/-! ### Bodies -/

/-- Runs the body of a slot and marshals what it answers. Arguments passed in boxes are put back
into them. -/
def runBody (calls : Calls) (engine : EngineId) (scene : Scene) (slot : Slot) (body : Body)
    (prepared : Prepared) : ScriptRun Script.Value := do
  let setting : Setting := { self := scene.subject.self, caller := some engine }
  let (answer, left) ←
    held (callHost engine (useBody calls scene slot .call body setting prepared.arguments))
  writeBack prepared left
  if slot.declaration.type == .void then return .undefined
  else toScript calls engine answer slot.declaration.type

/-- The error of a slot without a body. -/
def bodyless (slot : Slot) : ScriptError :=
  match slot.implementation.implementation with
  | .abstract => .notSupported s!"'{slot.declaration.name}' has no implementation"
  | _ => .notSupported s!"'{slot.declaration.name}' is not a method"

/-! ### Arrays -/

/-- The greatest length of a host array. -/
def greatestLength : Nat := 2 ^ 31 - 1

/-- The place that a script number names in an array: a whole number that is not negative. -/
def arrayPlace (key : Script.Value) : ScriptRun Nat := do
  match key.toDouble?.filter fun number => number.isNonnegative && number.isWhole with
  | some number => return (number.clampToInt 0 (2 ^ 64 - 1)).toNat
  | none => raise (.range s!"invalid array index {← describe key}")

/-- A new array of initial values. -/
def newArray (element : TypeRef) (length : Nat) : ScriptRun CellId := do
  if greatestLength < length then
    raise (.range s!"array length {length} exceeds {greatestLength}")
  else
    let initial := (← types).initial element
    create (.hostArray element (Array.replicate length initial))

/-! ### Construction -/

/-- The delegate of a type around a script function. -/
def constructDelegate (engine : EngineId) (key : TypeKey) (arguments : List Script.Value) :
    ScriptRun Script.Value := do
  match arguments with
  | [.function function] =>
    let delegate ← converting (delegateFor function key)
    return .proxy (← proxyReference engine (.delegate delegate) (.named key) .none)
  | _ =>
    let given ← match arguments with
      | first :: _ => describe first
      | [] => pure "nothing"
    raise (.argumentConversion (.incompatible given ((← types).type key).name))

/-- An instance of a registered type. -/
def constructNamed (calls : Calls) (engine : EngineId) (scene : Scene) (key : TypeKey)
    (arguments : List Script.Value) : ScriptRun Script.Value := do
  let table := scene.sight.table
  let type := table.type key
  let slots := scene.constructors
  let visible := slots.filter scene.sight.sees
  if visible.isEmpty then
    if type.isStruct && arguments.isEmpty then
      toScript calls engine (table.initial (.named key)) (.named key)
    else raise (.notSupported s!"type {type.name} has no accessible constructor")
  else
    let (slot, prepared) ← resolve engine type.name visible slots.length arguments
    match slot.implementation.implementation with
    | .invoke body => runBody calls engine scene slot body prepared
    | _ => raise (bodyless slot)

/-- Makes an instance of the type a proxy stands for. -/
def construct (calls : Calls) (engine : EngineId) (proxy : CellId)
    (arguments : List Script.Value) : ScriptRun Script.Value := scope do
  holdCells (proxy :: arguments.flatMap Script.Value.cells)
  let scene ← look engine proxy
  let table := scene.sight.table
  match scene.subject with
  | .statics (.named key) =>
    if (table.type key).isDelegate then constructDelegate engine key arguments
    else constructNamed calls engine scene key arguments
  | .statics type@(.array element) =>
    match arguments with
    | [length] =>
      let array ← newArray element (← arrayPlace length)
      toScript calls engine (.array array) type
    | _ => raise (.missingMember s!"{table.display type} constructor")
  | .statics type => raise (.notSupported s!"type {table.display type} cannot be constructed")
  | other => raise (.notSupported s!"{← typeText other.self} is not a type")

end ScriptBridge.Binding
