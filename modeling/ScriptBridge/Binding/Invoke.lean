/-
This file calls what proxies stand for and what is bound to them. Calling an
object calls its default member; calling a name that reads as a value, with
arguments that no overload of the name takes, reads it first and applies the
arguments to the value. An assignment through a call reaches the indexer that
reading the same way would reach.
-/

import ScriptBridge.Binding.Helper

namespace ScriptBridge.Binding

open Host Run Bridge

/-! ### Methods -/

/-- Calls a method, given the arguments made ready for it and as script gave them. -/
def invokeSlot (calls : Calls) (engine : EngineId) (scene : Scene) (slot : Slot)
    (prepared : Prepared) (arguments : List Script.Value) : ScriptRun Script.Value := do
  match slot.implementation.implementation with
  | .invoke body => runBody calls engine scene slot body prepared
  | .intrinsic number =>
    note (.used ⟨scene, slot, .intrinsic number⟩)
    runIntrinsic calls engine number arguments
  | _ => raise (bodyless slot)

/-- Does no overload of the name, hidden ones included, take that many arguments? -/
def missesCount (slots : List Slot) (name : String) (count : Nat) : Bool :=
  0 < count && slots.all fun slot =>
    !slot.isNamed name || !slot.implementation.acceptsCount count

/-- Calls the best overload of a name. Where the number of arguments fits none, they are applied
to what the name answers without arguments. -/
def invokeMethod (calls : Calls) (engine : EngineId) (scene : Scene) (name : String)
    (arguments : List Script.Value) : ScriptRun Script.Value := do
  let found := scene.lookup name
  let methods := found.ofKind .method
  match ← settle (resolve engine name methods found.declared arguments) with
  | .ok (slot, prepared) => invokeSlot calls engine scene slot prepared arguments
  | .error error =>
    match methods.find? Slot.isGetter, missesCount scene.slots name arguments.length with
    | some getter, true =>
      let value ← held (invokeSlot calls engine scene getter {} [])
      calls.callValue engine value arguments
    | _, _ => raise error

/-- The name of the call that every delegate answers to. -/
def invokeName : String := "Invoke"

/-- Calls a delegate with arguments converted to its signature. -/
def callDelegate (calls : Calls) (engine : EngineId) (delegate : CellId)
    (arguments : List Script.Value) : ScriptRun Script.Value := do
  let type := (← types).type (← readStore (·.delegateType delegate))
  match type.signature? with
  | none => raise (.notSupported s!"{type.name} is not a delegate type")
  | some signature =>
    match ← settle (prepare engine signature.parameters arguments) with
    | .error .count => raise (.missingMember invokeName)
    | .error (.conversion error) => raise (.argumentConversion error)
    | .ok prepared =>
      let (answer, left) ←
        held (callHost engine (calls.invokeDelegate delegate prepared.arguments))
      writeBack prepared left
      if signature.result == .void then return .undefined
      else toScript calls engine answer signature.result

/-! ### Indexers -/

/-- Reads at keys through the best of the visible indexers of a name. -/
def readIndexer (calls : Calls) (engine : EngineId) (scene : Scene) (name : String)
    (keys : List Script.Value) : ScriptRun Script.Value := do
  let found := scene.lookup name
  let (slot, prepared) ←
    resolve engine Member.indexerName (found.ofKind .indexer) found.declared keys
  match slot.implementation.implementation with
  | .accessor (some get) _ =>
    let value ← held (readAccessor calls engine scene slot get prepared.arguments)
    toScript calls engine value slot.declaration.type
  | _ => raise (.accessDenied s!"indexer of {← typeText scene.subject.self} is write-only")

/-- Writes at keys through the best of the visible indexers of a name. -/
def writeIndexer (calls : Calls) (engine : EngineId) (scene : Scene) (name : String)
    (keys : List Script.Value) (value : Script.Value) : ScriptRun Unit := do
  let found := scene.lookup name
  let (slot, prepared) ←
    resolve engine Member.indexerName (found.ofKind .indexer) found.declared keys
  match scene.sight.mayWrite slot, slot.implementation.implementation with
  | true, .accessor _ (some set) =>
    let converted ← held (converting (toHost engine value slot.declaration.type))
    writeAccessor calls engine scene slot set prepared.arguments converted.value
  | _, _ => raise (.accessDenied s!"indexer of {← typeText scene.subject.self} is read-only")

/-- The error of an element that is not there. -/
def elementError (place length : Nat) : ScriptError :=
  .range s!"index {place} outside array of length {length}"

/-- Reads an element of a host array. -/
def readElement (calls : Calls) (engine : EngineId) (array : CellId) (key : Script.Value) :
    ScriptRun Script.Value := do
  let place ← arrayPlace key
  let items ← readStore (·.hostItems array)
  match items[place]? with
  | some item => toScript calls engine item (← readStore (·.element array))
  | none => raise (elementError place items.size)

/-- Writes an element of a host array. -/
def writeElement (engine : EngineId) (array : CellId) (key value : Script.Value) :
    ScriptRun Unit := do
  let place ← arrayPlace key
  let element ← readStore (·.element array)
  let converted ← held (converting (toHost engine value element))
  let items ← readStore (·.hostItems array)
  if place < items.size then
    modifyStore fun store =>
      store.put array (.hostArray element (items.setIfInBounds place converted.value))
  else raise (elementError place items.size)

/-- Reads at keys on a proxy that leads to a value, without asking a dynamic capability for the
keys. Without an indexer a single text is a name. -/
def getIndexStatic (calls : Calls) (engine : EngineId) (proxy : CellId) (current : Host.Value)
    (keys : List Script.Value) : ScriptRun Script.Value := do
  let scene ← look engine proxy
  match scene.subject, keys with
  | .plain (.array array), [key] => readElement calls engine array key
  | _, _ =>
    match ((scene.lookup Member.indexerName).ofKind .indexer).isEmpty, keys with
    | false, _ => readIndexer calls engine scene Member.indexerName keys
    | true, [.string name] => getMember calls engine proxy name
    | true, _ => raise (.notSupported s!"{← typeText current} has no indexer")

/-- Reads at keys on a proxy. -/
def getIndex (calls : Calls) (engine : EngineId) (proxy : CellId) (keys : List Script.Value) :
    ScriptRun Script.Value := scope do
  holdCells (proxy :: keys.flatMap Script.Value.cells)
  let current ← target proxy
  match ← offerGetIndex calls engine proxy current keys with
  | some value => return value
  | none => getIndexStatic calls engine proxy current keys

/-- Writes at keys on a proxy that leads to a value, without asking a dynamic capability for the
keys. Without an indexer a single text is a name. -/
def setIndexStatic (calls : Calls) (engine : EngineId) (proxy : CellId) (current : Host.Value)
    (keys : List Script.Value) (value : Script.Value) : ScriptRun Unit := do
  let scene ← look engine proxy
  match scene.subject, keys with
  | .plain (.array array), [key] => writeElement engine array key value
  | _, _ =>
    match ((scene.lookup Member.indexerName).ofKind .indexer).isEmpty, keys with
    | false, _ => writeIndexer calls engine scene Member.indexerName keys value
    | true, [.string name] => setMember calls engine proxy name value
    | true, _ => raise (.notSupported s!"{← typeText current} has no indexer")

/-- Writes at keys on a proxy. -/
def setIndex (calls : Calls) (engine : EngineId) (proxy : CellId) (keys : List Script.Value)
    (value : Script.Value) : ScriptRun Unit := scope do
  holdCells (proxy :: value.cells ++ keys.flatMap Script.Value.cells)
  let current ← target proxy
  if ← offerSetIndex engine proxy current keys value then return ()
  setIndexStatic calls engine proxy current keys value

/-! ### Calls on proxies -/

/-- The error of calling an event. -/
def eventError (name : String) : ScriptError :=
  .notSupported s!"event '{name}' cannot be invoked; use connect"

/-- Calls a name that is no member. -/
def invokeOther (calls : Calls) (engine : EngineId) (subject : Subject) (name : String)
    (arguments : List Script.Value) : ScriptRun Script.Value := do
  match subject, name == toStringName && arguments.isEmpty, name == invokeName with
  | .statics type, true, _ => return .string ((← types).display type)
  | _, true, _ => return .string (← valueText subject.self)
  | .member (.delegate delegate) _, false, true => callDelegate calls engine delegate arguments
  | _, false, _ => raise (.missingMember name)

/-- Calls what a scene shows under a name. -/
def invokeFound (calls : Calls) (engine : EngineId) (scene : Scene) (name : String)
    (arguments : List Script.Value) : ScriptRun Script.Value := do
  match (scene.lookup name).visible with
  | [] => invokeOther calls engine scene.subject name arguments
  | first :: _ =>
    match first.declaration.kind with
    | .method => invokeMethod calls engine scene name arguments
    | .indexer => readIndexer calls engine scene name arguments
    | .field | .property =>
      let value ← held (readSlot calls engine scene first)
      if arguments.isEmpty then return value else calls.callValue engine value arguments
    | .event => raise (eventError name)
    | .constructor => raise (.missingMember name)

/-- Calls a member by name, without asking a dynamic capability. -/
def invokeMember (calls : Calls) (engine : EngineId) (proxy : CellId) (name : String)
    (arguments : List Script.Value) : ScriptRun Script.Value := scope do
  holdCells (proxy :: arguments.flatMap Script.Value.cells)
  invokeFound calls engine (← look engine proxy) name arguments

/-- Calls a name on a proxy. -/
def invoke (calls : Calls) (engine : EngineId) (proxy : CellId) (name : String)
    (arguments : List Script.Value) : ScriptRun Script.Value := scope do
  holdCells (proxy :: arguments.flatMap Script.Value.cells)
  let current ← target proxy
  match ← offerInvoke calls engine proxy current name arguments with
  | some value => return value
  | none => invokeMember calls engine proxy name arguments

/-- The member reached by calling an instance: the one declared, else a visible indexer. -/
def defaultMember? (engine : EngineId) (proxy : CellId) (subject : Subject) :
    ScriptRun (Option String) := do
  match subject with
  | .member _ key =>
    match (← types).defaultMember? key with
    | some name => return some name
    | none =>
      let scene ← sceneOf engine proxy subject
      let indexer := scene.slots.find? fun slot => slot.isKind .indexer && scene.sight.sees slot
      return indexer.map (·.declaration.scriptName)
  | _ => return none

/-- Calls a proxy that leads to a value, without asking a dynamic capability for the call. -/
def callStatic (calls : Calls) (engine : EngineId) (proxy : CellId) (current : Host.Value)
    (arguments : List Script.Value) : ScriptRun Script.Value := do
  match ← subjectOf proxy, arguments with
  | .statics _, _ => construct calls engine proxy arguments
  | .member (.delegate delegate) _, _ => callDelegate calls engine delegate arguments
  | .plain (.array _), [_] => getIndex calls engine proxy arguments
  | .plain value, _ => raise (.notSupported s!"{← typeText value} is not callable")
  | subject, _ =>
    match ← defaultMember? engine proxy subject with
    | some name => invokeMember calls engine proxy name arguments
    | none => raise (.notSupported s!"{← typeText current} has no default member")

/-- Calls a proxy. -/
def callProxy (calls : Calls) (engine : EngineId) (proxy : CellId)
    (arguments : List Script.Value) : ScriptRun Script.Value := scope do
  holdCells (proxy :: arguments.flatMap Script.Value.cells)
  let current ← target proxy
  match ← offerCall calls engine proxy current arguments with
  | some value => return value
  | none => callStatic calls engine proxy current arguments

/-! ### Assignment through calls -/

/-- Assigns through a call of what a scene of a proxy shows under a name. -/
def assignFound (calls : Calls) (engine : EngineId) (proxy : CellId) (scene : Scene)
    (name : String) (keys : List Script.Value) (value : Script.Value) : ScriptRun Unit := do
  let found := scene.lookup name
  match found.visible with
  | [] => raise (.missingMember name)
  | first :: _ =>
    match first.declaration.kind with
    | .indexer => writeIndexer calls engine scene name keys value
    | .field | .property =>
      if keys.isEmpty then setMember calls engine proxy name value
      else
        let inner ← held (readSlot calls engine scene first)
        calls.assignThrough engine inner keys value
    | .method =>
      match (found.ofKind .method).find? Slot.isGetter with
      | some getter =>
        let inner ← held (invokeSlot calls engine scene getter {} [])
        calls.assignThrough engine inner keys value
      | none => raise (.notSupported s!"cannot assign to method '{name}'")
    | _ => raise (.accessDenied s!"cannot assign to '{name}'")

/-- Assigns through a call of a member. -/
def assignMember (calls : Calls) (engine : EngineId) (proxy : CellId) (name : String)
    (keys : List Script.Value) (value : Script.Value) : ScriptRun Unit := scope do
  holdCells (proxy :: value.cells ++ keys.flatMap Script.Value.cells)
  assignFound calls engine proxy (← look engine proxy) name keys value

/-- Assigns through a call of a proxy. -/
def assignProxy (calls : Calls) (engine : EngineId) (proxy : CellId) (keys : List Script.Value)
    (value : Script.Value) : ScriptRun Unit := scope do
  holdCells (proxy :: value.cells ++ keys.flatMap Script.Value.cells)
  match ← subjectOf proxy with
  | .plain (.array _) => setIndex calls engine proxy keys value
  | subject@(.member current _) =>
    match ← defaultMember? engine proxy subject with
    | some name => assignMember calls engine proxy name keys value
    | none => raise (.notSupported s!"{← typeText current} has no default member")
  | _ => raise (.notSupported "invalid assignment target")

/-- Assigns through a call of any value. -/
def assignThrough (calls : Calls) (engine : EngineId) (callee : Script.Value)
    (keys : List Script.Value) (value : Script.Value) : ScriptRun Unit := scope do
  holdCells callee.cells
  let refuse : ScriptRun Unit := do
    raise (.notSupported s!"cannot assign through {← describe callee}")
  match callee with
  | .proxy proxy => assignProxy calls engine proxy keys value
  | .member cell =>
    let member ← readStore (·.member cell)
    if member.kind == .indexer || member.kind == .method then
      assignMember calls engine member.proxy member.name keys value
    else refuse
  | _ => refuse

/-! ### Events -/

/-- The handler that an argument gives for an event. -/
def handlerOf (engine : EngineId) (type : TypeRef) (arguments : List Script.Value) :
    ScriptRun CellId := do
  match arguments with
  | [argument] =>
    match (← held (converting (toHost engine argument type))).value with
    | .delegate handler => return handler
    | other =>
      let table ← types
      raise (.argumentConversion (.incompatible (← typeText other) (table.display type)))
  | _ => raise (.missingMember "connect")

/-- Attaches a handler to an event by its hooks and answers with the connection. -/
def connectThrough (hooks : EventHooks) (calls : Calls) (engine : EngineId) (member : BoundMember)
    (arguments : List Script.Value) : ScriptRun Script.Value := scope do
  holdCells (member.proxy :: arguments.flatMap Script.Value.cells)
  let scene ← look engine member.proxy
  let source := scene.subject.self
  match (scene.lookup member.name).ofKind .event with
  | [] => raise (.missingMember member.name)
  | slot :: _ =>
    match slot.implementation.implementation with
    | .event =>
      let event := slot.implementation.name
      let handler ← handlerOf engine slot.declaration.type arguments
      callHost engine do
        note (.used ⟨scene, slot, .attach⟩)
        hooks.add source event handler
      let connection ← create (.connection
        { type := Builtin.connection, source, handler, event, connected := true })
      toScript calls engine (.object connection) (.named Builtin.connection)
    | _ => raise (.notSupported s!"'{member.name}' is not an event")

/-- Attaches a handler to an event whose handlers its object keeps. -/
def connect (calls : Calls) (engine : EngineId) (member : BoundMember)
    (arguments : List Script.Value) : ScriptRun Script.Value :=
  connectThrough .kept calls engine member arguments

/-! ### Bound members -/

/-- What a bound member stands for under a name of its own. -/
def BoundKind.inner? (kind : BoundKind) (name : String) : Option BoundKind :=
  match kind with
  | .indexer =>
    if name == "get" then some .indexerGet
    else if name == "set" then some .indexerSet
    else none
  | .event => if name == "connect" then some .eventConnect else none
  | _ => none

/-- Reads a name on a bound member. -/
def getBound (member : BoundMember) (name : String) : ScriptRun Script.Value :=
  match BoundKind.inner? member.kind name with
  | some kind => bound member.proxy member.name kind
  | none => return .undefined

/-- Calls a bound member. -/
def callBound (calls : Calls) (engine : EngineId) (member : BoundMember)
    (arguments : List Script.Value) : ScriptRun Script.Value := do
  match member.kind with
  | .method | .indexer | .indexerGet => invokeMember calls engine member.proxy member.name arguments
  | .indexerSet =>
    match arguments.getLast? with
    | some value =>
      assignMember calls engine member.proxy member.name arguments.dropLast value
      return .undefined
    | none => raise (.missingMember "set")
  | .event => raise (eventError member.name)
  | .eventConnect => connect calls engine member arguments

/-- Calls a name on a bound member. -/
def invokeBound (calls : Calls) (engine : EngineId) (member : BoundMember) (name : String)
    (arguments : List Script.Value) : ScriptRun Script.Value :=
  match BoundKind.inner? member.kind name with
  | some kind => callBound calls engine { member with kind } arguments
  | none => raise (.missingMember name)

/-! ### Any value -/

/-- The error of calling what cannot be called. -/
def notCallable {Result : Type} (value : Script.Value) : ScriptRun Result := do
  raise (.plain "TypeError" s!"{← describe value} is not a function")

/-- Calls any script value. -/
def callValue (calls : Calls) (engine : EngineId) (callee : Script.Value)
    (arguments : List Script.Value) : ScriptRun Script.Value := scope do
  holdCells (callee.cells ++ arguments.flatMap Script.Value.cells)
  match callee with
  | .function function => calls.callFunction engine function arguments
  | .proxy proxy => callProxy calls engine proxy arguments
  | .member cell => callBound calls engine (← readStore (·.member cell)) arguments
  | other => notCallable other

/-! ### Names -/

/-- The names that a subject of a sort answers to besides its members. -/
def otherNames (table : TypeTable) (subject : Subject) : List String :=
  match subject with
  | .statics (.named key) =>
    (table.type key).nested.map (fun nested => (table.type nested).name) ++
      (table.type key).constants.map (·.1)
  | .plain (.array _) => ["length"]
  | .plain (.box _) => ["value"]
  | _ => []

/-- The names that script can reach on a proxy, each once. -/
def memberNames (engine : EngineId) (proxy : CellId) : ScriptRun (List String) := scope do
  let current ← target proxy
  let offered ← offeredNames proxy current
  let scene ← sceneOf engine proxy (← subjectOf proxy)
  let visible := scene.slots.filter scene.sight.sees
  let names :=
    offered ++ visible.map (·.declaration.scriptName) ++
      otherNames scene.sight.table scene.subject
  return names.eraseDups

end ScriptBridge.Binding
