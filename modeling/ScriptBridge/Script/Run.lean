/-
This file runs script code. The parts of an expression are evaluated from left to
right; what they evaluate to is in use until the expression is done. Locals
belong to the body that sets them and go with it.
-/

import ScriptBridge.Script.Operation
import ScriptBridge.Store.Shown

namespace ScriptBridge.Script

open Run Bridge Binding

/-! ### Locals -/

/-- Runs a body with locals of its own, which are gone when it ends. -/
def inLocals {Result : Type} (body : ScriptRun Result) : ScriptRun Result := do
  update fun world => { world with locals := [] :: world.locals }
  let outcome ← settle body
  update fun world => { world with locals := world.locals.drop 1 }
  ofExcept outcome

/-- Changes the locals of the body that runs. -/
def modifyLocals (change : Named Value → Named Value) : ScriptRun Unit :=
  update fun world =>
    match world.locals with
    | [] => world
    | locals :: outer => { world with locals := change locals :: outer }

/-- The value of a name: a local of the body that runs or, failing that, a register. -/
def World.register (world : World) (name : String) : Value :=
  let own := match world.locals with
    | locals :: _ => locals.get? name
    | [] => none
  (own.or (world.registers.get? name)).getD .undefined

/-! ### Parts of expressions -/

/-- What code runs with: its engine, its document and the arguments it was called with. -/
structure Context where
  engine : EngineId
  document : Document
  arguments : List Value := []

/-- A new script array. -/
def makeArray (items : List Value) : ScriptRun Value := do
  return .array (← create (.scriptArray items.toArray))

/-- A new script object; of properties of one name the last counts. -/
def makeObject (properties : List (String × Value)) : ScriptRun Value := do
  let named := properties.foldl (fun (named : Named Value) entry => named.put entry.1 entry.2) []
  return .object (← create (.scriptObject named))

/-- A window onto a buffer. -/
def makeView (kind : Buffer.ElementKind) (buffer : Value) (offset length : Nat) :
    ScriptRun Value := do
  match buffer with
  | .buffer cell =>
    let size ← readStore fun store => (store.bytes cell).size
    match Buffer.Window.create size kind offset length with
    | .ok window => return .view ⟨cell, window⟩
    | .error fault => raise (.range (HostError.range fault.message).message)
  | _ => return .undefined

/-- Appends to a script array. -/
def pushItem (array value : Value) : ScriptRun Unit :=
  match array with
  | .array cell => modifyStore (·.modify cell (·.append value))
  | _ => return ()

/-- Does a script object have a property? -/
def hasProperty (object : Value) (name : String) : ScriptRun Bool := do
  match object with
  | .object cell => return (← readStore (·.properties cell)).has name
  | _ => return false

/-- What code sees of the document it belongs to. -/
def describeDocument (document : Document) : ScriptRun Value :=
  makeObject
    [("name", .string document.name), ("module", .bool document.isModule),
      ("specifier", match document.specifier with
        | some specifier => .string specifier
        | none => .null)]

/-- Runs on the engine of a name, if there is one. -/
def onEngine (name : String) (run : EngineId → ScriptRun Value) : ScriptRun Value := do
  match ← observe (·.engineNamed? name) with
  | some engine => run engine
  | none => return .undefined

/-- Runs a body; a handler sees what it fails with, unless it was interrupted. -/
def tryCatch (body : ScriptRun Value) (handler : Value → ScriptRun Value) : ScriptRun Value := do
  match ← settle body with
  | .ok value => return value
  | .error error =>
    if error.isCatchable then
      holdCells error.cells
      handler (← held (caughtValue error))
    else raise error

/-- A run a number of times over; what it answers is in use until the next time is done. -/
def repeatedly (run : ScriptRun Value) : Nat → Value → ScriptRun Value
  | 0, last => return last
  | count + 1, last => do
    let next ← scope (do holdCells last.cells; run)
    repeatedly run count next

/-! ### Expressions -/

mutual

/-- The value of an expression. -/
def Code.run (calls : Calls) (context : Context) : Code → ScriptRun Value
  | .undefined => return .undefined
  | .null => return .null
  | .bool value => return .bool value
  | .int value => return .int value
  | .double value => return .double value
  | .string value => return .string value
  | .date millis => return .date millis
  | .array items => scope do makeArray (← Code.runAll calls context items)
  | .object keys values => scope do
    makeObject (keys.zip (← Code.runAll calls context values))
  | .buffer contents => return .buffer (← create (.buffer contents.toArray))
  | .view kind target offset length => scope do
    makeView kind (← held (target.run calls context)) offset length
  | .register name => observe (World.register · name)
  | .argument place => return context.arguments[place]?.getD .undefined
  | .setLocal name value => do
    let value ← held (value.run calls context)
    modifyLocals (·.put name value)
    return value
  | .dropLocal name => do
    modifyLocals (·.erase name)
    return .undefined
  | .sequence parts => Code.runSequence calls context .undefined parts
  | .repeated count body => repeatedly (body.run calls context) count .undefined
  | .global name => scope (readGlobal calls context.engine name)
  | .setGlobal name value => scope do
    writeGlobal context.engine name (← held (value.run calls context))
    return .undefined
  | .get target name => scope do
    getProperty calls context.engine (← held (target.run calls context)) name
  | .set target name value => scope do
    let target ← held (target.run calls context)
    setProperty calls context.engine target name (← held (value.run calls context))
    return .undefined
  | .call callee operands => scope do
    let callee ← held (callee.run calls context)
    callValue calls context.engine callee (← Code.runAll calls context operands)
  | .invoke target name operands => scope do
    let target ← held (target.run calls context)
    invokeProperty calls context.engine target name (← Code.runAll calls context operands)
  | .setInvoke target keys value => scope do
    let target ← held (target.run calls context)
    let keys ← Code.runAll calls context keys
    assignThrough calls context.engine target keys (← held (value.run calls context))
    return .undefined
  | .setInvokeMember target name keys value => scope do
    let target ← held (target.run calls context)
    let keys ← Code.runAll calls context keys
    assignThroughProperty calls context.engine target name keys (← held (value.run calls context))
    return .undefined
  | .index target keys => scope do
    let target ← held (target.run calls context)
    readIndex calls context.engine target (← Code.runAll calls context keys)
  | .setIndex target keys value => scope do
    let target ← held (target.run calls context)
    let keys ← Code.runAll calls context keys
    writeIndex calls context.engine target keys (← held (value.run calls context))
    return .undefined
  | .construct callee operands => scope do
    let callee ← held (callee.run calls context)
    constructValue calls context.engine callee (← Code.runAll calls context operands)
  | .names target => scope do
    let target ← held (target.run calls context)
    makeArray ((← namesOf context.engine target).map .string)
  | .poll => do
    ofExcept (← Run.engine context.engine).session.poll
    return .undefined
  | .attempt body caught handler => scope do
    tryCatch (body.run calls context) fun value => do
      modifyLocals (·.put caught value)
      handler.run calls context
  | .raise value => scope do
    Run.raise (← thrownError context.document (← held (value.run calls context)))
  | .function name body => do
    return .function (← create (.function ⟨name, context.engine, context.document, body⟩))
  | .importModule specifier =>
    scope (calls.importModule context.engine specifier context.document.specifier)
  | .document => describeDocument context.document
  | .engineName => do return .string (← Run.engine context.engine).name
  | .equal left right => scope do
    let left ← held (left.run calls context)
    let right ← held (right.run calls context)
    return .bool (← observe (·.strictEquals left right))
  | .text value => scope do
    return .string (← textOf calls context.engine (← held (value.run calls context)))
  | .number value => scope do
    return .double (← numberOf context.engine (← held (value.run calls context)))
  | .typeName value => scope do
    return .string (← held (value.run calls context)).typeName
  | .truthy value => scope do
    return .bool (← held (value.run calls context)).isTruthy
  | .describe value => scope do
    return .string (← Run.describe (← held (value.run calls context)))
  | .host contents type => scope do
    toScript calls context.engine (← held contents.evaluate) type
  | .logHost value => scope do
    let host ← held (toHostValue context.engine (← held (value.run calls context)))
    log (.host (← observe (·.shownHost host)))
    return .undefined
  | .push target value => scope do
    let target ← held (target.run calls context)
    pushItem target (← held (value.run calls context))
    return .undefined
  | .has target name => scope do
    return .bool (← hasProperty (← held (target.run calls context)) name)
  | .state name => onEngine name fun engine => do
    return .string (← Run.engine engine).session.state.name
  | .interrupt name => do return .bool (← Host.interruptEngine name)
  | .collect name => onEngine name fun engine => do
    return .bool (← Bridge.collect engine).isSome
  | .dispose name => onEngine name fun engine => do
    modifyEngine engine Engine.dispose
    return .undefined
  | .roots name => onEngine name fun engine => do
    return .int (Int64.ofNat (← Run.engine engine).cache.roots.length)
  | .defaultAccess name access => onEngine name fun engine => do
    govern engine ({ · with defaultAccess := access })
    return .undefined

/-- The values of expressions, in order, in use until the scope ends. -/
def Code.runAll (calls : Calls) (context : Context) : List Code → ScriptRun (List Value)
  | [] => return []
  | code :: rest => do
    let value ← held (code.run calls context)
    return value :: (← Code.runAll calls context rest)

/-- The value of the last of some expressions, each in use until the next one is done. -/
def Code.runSequence (calls : Calls) (context : Context) : Value → List Code → ScriptRun Value
  | last, [] => return last
  | last, code :: rest => do
    let next ← scope (do holdCells last.cells; code.run calls context)
    Code.runSequence calls context next rest

end

end ScriptBridge.Script
