/-
This file runs host code. Expressions are evaluated from left to right over the
instance, the arguments as they stand and, in setters, the value assigned;
statements may change the instance's state and the arguments, and the first
answer ends a body. Literals make what they stand for afresh. Extraction is
strict: a value of another shape is a mismatch.
-/

import ScriptBridge.Calls
import ScriptBridge.Store.Shown

namespace ScriptBridge.Host

open ScriptBridge.Run

/-! ### Literals -/

mutual

/-- Makes the value a literal stands for. -/
def Literal.evaluate {Failure : Type} : Literal → Run Failure Value
  | .constant value => return value
  | .struct type fields => return .struct type (← Literal.evaluateAll fields)
  | .fresh type names values dynamic => do
    let state := names.zip (← Literal.evaluateAll values)
    let capability ← DynamicLiteral.evaluate? dynamic
    return .object (← create (.object
      { type, state := state.foldl (fun state entry => state.put entry.1 entry.2) [],
        dynamic := capability }))
  | .labelled label => do return ((← observe (·.objects)).get? label).getD .null
  | .array element items => do
    let values ← Literal.evaluateAll items
    return .array (← create (.hostArray element values.toArray))
  | .buffer bytes => return .buffer (← create (.buffer bytes.toArray))
  | .view kind buffer offset length => do
    match ← buffer.evaluate with
    | .buffer cell =>
      let size ← readStore fun store => (store.bytes cell).size
      match Buffer.Window.create size kind offset length with
      | .ok window => return .view ⟨cell, window⟩
      | .error _ => return .null
    | _ => return .null
  | .box type value => do return .box (← create (.box type (← value.evaluate)))
  | .delegate type body => return .delegate (← create (.delegate type (.code body)))

/-- Makes the values literals stand for, in order. -/
def Literal.evaluateAll {Failure : Type} : List Literal → Run Failure (List Value)
  | [] => return []
  | literal :: rest => do
    let value ← literal.evaluate
    return value :: (← Literal.evaluateAll rest)

/-- Makes the dynamic capability a literal describes. -/
def DynamicLiteral.evaluate? {Failure : Type} :
    Option DynamicLiteral → Run Failure (Option Dynamic)
  | none => return none
  | some (.mk names values handled failing methodNames methods call) => do
    let made ← Literal.evaluateAll values
    return some
      { values := (names.zip made).foldl (fun entries entry => entries.put entry.1 entry.2) []
        handled, failing
        methods := methodNames.zip methods
        call }

end

/-! ### Strict access -/

/-- The object that a member runs on. -/
def objectOf (value : Value) : HostRun CellId := do
  match value with
  | .object cell => return cell
  | .null | .undefined => raise (.nullReference "instance is null")
  | other => raise (.typeMismatch "Object" (← typeText other))

/-- The state of the object that a member runs on. -/
def stateOf (value : Value) : HostRun (CellId × HostObject) := do
  let cell ← objectOf value
  match ← readStore (·.object? cell) with
  | some object => return (cell, object)
  | none => raise (.typeMismatch "state" (← typeText value))

/-- The name of a shape in mismatches. -/
def Shape.name : Shape → String
  | .bool => "Boolean"
  | .numeric kind => kind.name
  | .char => "Char"
  | .string => "String"
  | .dateTime => "DateTime"
  | .object => "Object"
  | .array => "Array"
  | .buffer => "ArrayBuffer"
  | .view => "ArrayBufferView"
  | .delegate => "Delegate"
  | .box => "HostVariable"

/-- Does the value have the shape? -/
def Shape.fits (shape : Shape) (value : Value) : Bool :=
  match shape, value with
  | .bool, .bool _ | .char, .char _ | .string, .string _ | .dateTime, .dateTime _
  | .object, .object _ | .array, .array _ | .buffer, .buffer _ | .view, .view _
  | .delegate, .delegate _ | .box, .box _ => true
  | .numeric kind, value => value.numericKind? == some kind
  | _, _ => false

/-- The value, if it has the shape. -/
def Shape.extract (shape : Shape) (value : Value) : HostRun Value := do
  if shape.fits value then return value
  else raise (.typeMismatch shape.name (← typeText value))

/-- The value, if the extraction takes it. Where null is taken, undefined becomes null. -/
def Extraction.apply (extraction : Extraction) (value : Value) : HostRun Value :=
  match extraction with
  | .any => return value
  | .exact shape => shape.extract value
  | .optional shape => if value.isNullish then return .null else shape.extract value

/-- The error of an argument that is not there. -/
def missingArgument (index : Nat) : HostError := .argument s!"missing argument {index}"

/-- The error that code describes. -/
def Raised.error : Raised → HostError
  | .mk kind message inner =>
    let outer : HostError := match kind with
      | .exception type => .exception type message none
      | .argument => .argument message
      | .range => .range message
      | .nullReference => .nullReference message
      | .disposed => .disposed message
      | .typeMismatch => .typeMismatch message "something"
    match inner with
    | none => outer
    | some cause => outer.withInner cause.error

/-! ### Expressions -/

/-- What a body runs with: the instance, the value assigned and the calling engine, unless the
body is detached from any. -/
structure Setting where
  self : Value := .null
  assigned : Option Value := none
  caller : Option EngineId := none

/-- The text of values, one after the other. -/
def textOf (values : List Value) : HostRun String := do
  return String.join (← valueTexts values)

/-- The sum of two 32-bit integers, wrapped into range. -/
def sum (left right : Value) : HostRun Value := do
  let left ← (Shape.numeric .int32).extract left
  let right ← (Shape.numeric .int32).extract right
  match left.toInt?, right.toInt? with
  | some left, some right => return .integer (.wrap32 (left + right))
  | _, _ => return .null

/-- The engine that evaluates source text: the named one or the caller. -/
def evaluator (setting : Setting) (name : Option String) : HostRun EngineId := do
  match name with
  | some name =>
    match ← observe (·.engineNamed? name) with
    | some engine => return engine
    | none => raise (.argument s!"no engine {name}")
  | none =>
    match setting.caller with
    | some engine => return engine
    | none => raise (.typeMismatch "engine" "<detached>")

/-- Asks an engine to interrupt its call; false when there is none. -/
def interruptEngine {Failure : Type} (name : String) : Run Failure Bool := do
  match ← observe (·.engineNamed? name) with
  | some engine => requestInterrupt engine
  | none => return false

mutual

/-- The value of an expression. -/
def Expression.run (calls : Calls) (setting : Setting) (arguments : List Value) :
    Expression → HostRun Value
  | .self => return setting.self
  | .assigned => return setting.assigned.getD .null
  | .callDepth => do
    match setting.caller with
    | some engine => return .integer (.wrap32 (← Run.engine engine).session.depth)
    | none => return .integer (.wrap32 0)
  | .engineName => do
    match setting.caller with
    | some engine => return .string (← Run.engine engine).name
    | none => return .string "<detached>"
  | .interrupted => do
    match setting.caller with
    | some engine => return .bool (← Run.engine engine).session.interruptRequested
    | none => return .bool false
  | .stateSize => do return .integer (.wrap32 (← stateOf setting.self).2.state.length)
  | .literal contents => contents.evaluate
  | .state name => do return ((← stateOf setting.self).2.state.get? name).getD .null
  | .stateAt key => do
    let key ← textOf [← key.run calls setting arguments]
    return ((← stateOf setting.self).2.state.get? key).getD .null
  | .argument index =>
    match arguments[index]? with
    | some value => return value
    | none => raise (missingArgument index)
  | .field index =>
    match setting.self with
    | .struct _ fields => return fields[index]?.getD .null
    | _ => return .null
  | .add left right => do
    let left ← left.run calls setting arguments
    let right ← right.run calls setting arguments
    sum left right
  | .concat parts => do
    return .string (← textOf (← Expression.runAll calls setting arguments parts))
  | .extract extraction operand => do
    extraction.apply (← operand.run calls setting arguments)
  | .invoke delegate operands result => do
    let target ← Shape.delegate.extract (← delegate.run calls setting arguments)
    let values ← Expression.runAll calls setting arguments operands
    match target with
    | .delegate cell =>
      let (answer, left) ← held (calls.invokeDelegate cell values)
      match result with
      | none => return answer
      | some index => return left[index]?.getD .null
    | _ => return .null
  | .evaluate engine source => do
    let source ← source.run calls setting arguments
    let engine ← evaluator setting engine
    let text ← textOf [source]
    held (mapFailure (fun _ error => .nested error) (calls.evaluate engine text))
  | .interrupt engine => do return .bool (← interruptEngine engine)
  | .handlers event => do
    let handlers := (← stateOf setting.self).2.handlersOf event
    return .integer (.wrap32 handlers.length)

/-- The values of expressions, in order. -/
def Expression.runAll (calls : Calls) (setting : Setting) (arguments : List Value) :
    List Expression → HostRun (List Value)
  | [] => return []
  | expression :: rest => do
    let value ← held (expression.run calls setting arguments)
    return value :: (← Expression.runAll calls setting arguments rest)

end

/-! ### Statements -/

/-- Sets a value of the state of the instance. -/
def storeState (self : Value) (name : String) (value : Value) : HostRun Unit := do
  let (cell, object) ← stateOf self
  let state := object.state.put name value
  modifyStore fun store => store.put cell (.object { object with state })

/-- Invokes handlers in order with the same arguments; the first failure ends it. -/
def fireAll (calls : Calls) (arguments : List Value) : List CellId → HostRun Unit
  | [] => return ()
  | handler :: rest => do
    discard (calls.invokeDelegate handler arguments)
    fireAll calls arguments rest

/-- Fires an event of the instance: its handlers at this moment are invoked. -/
def fireEvent (calls : Calls) (self : Value) (event : String) (arguments : List Value) :
    HostRun Unit := do
  let handlers := (← stateOf self).2.handlersOf event
  holdCells handlers
  fireAll calls arguments handlers

/-- Runs a statement. The first part of the result is the answer that ends the body, the second
the arguments as the statement left them. -/
def Statement.run (calls : Calls) (setting : Setting) (arguments : List Value) :
    Statement → HostRun (Option Value × List Value)
  | .answer value => do return (some (← value.run calls setting arguments), arguments)
  | .setState name value => do
    storeState setting.self name (← value.run calls setting arguments)
    return (none, arguments)
  | .setStateAt key value => do
    let key ← held (key.run calls setting arguments)
    let value ← value.run calls setting arguments
    storeState setting.self (← textOf [key]) value
    return (none, arguments)
  | .setArgument index value => do
    let value ← value.run calls setting arguments
    if index < arguments.length then return (none, arguments.set index value)
    else Run.raise (missingArgument index)
  | .raise error => Run.raise error.error
  | .fire event operands => do
    fireEvent calls setting.self event (← Expression.runAll calls setting arguments operands)
    return (none, arguments)
  | .checkInterrupt => do
    if let some engine := setting.caller then
      mapFailure (fun _ error => .nested error)
        (ofExcept (← Run.engine engine).session.poll)
    return (none, arguments)
  | .perform value => do
    discard (value.run calls setting arguments)
    return (none, arguments)
  | .log value => do
    let value ← value.run calls setting arguments
    Run.log (.note (← observe (·.shownHost value)))
    return (none, arguments)

/-- Runs statements until one answers; without an answer the result is null. -/
def runStatements (calls : Calls) (setting : Setting) (arguments : List Value) :
    Code → HostRun (Value × List Value)
  | [] => return (.null, arguments)
  | statement :: rest => do
    let (answer, left) ← scope (statement.run calls setting arguments)
    holdCells (Value.cellsOf left)
    match answer with
    | some value => return (value, left)
    | none => runStatements calls setting left rest

/-- Runs code as a body: what it runs with is in use until it ends. -/
def runCode (calls : Calls) (setting : Setting) (arguments : List Value) (code : Code) :
    HostRun (Value × List Value) := scope do
  holdCells (setting.self.cells ++ HoldsCells.cells setting.assigned ++ Value.cellsOf arguments)
  runStatements calls setting arguments code

/-- Logs the run of a body that carries a label. -/
def logRun (label : Option String) (arguments : List Value) (assigned : Option Value) :
    HostRun Unit := do
  match label with
  | none => return ()
  | some label =>
    let world ← observe id
    log (.call label (arguments.map world.shownHost) (assigned.map world.shownHost))

/-! ### Bodies -/

/-- The bond that a member of a connection runs on. -/
def connectionOf (value : Value) : HostRun (CellId × Connection) := do
  let cell ← objectOf value
  match ← readStore (·.get? cell) with
  | some (.connection connection) => return (cell, connection)
  | _ => raise (.typeMismatch "connection" (← typeText value))

/-- Adds a handler to an event of an object. -/
def addHandler (self : Value) (event : String) (handler : CellId) : HostRun Unit := do
  let (cell, object) ← stateOf self
  modifyStore fun store => store.put cell (.object (object.attach event handler))

/-- Removes the first registration of a handler from an event of an object. -/
def removeHandler (self : Value) (event : String) (handler : CellId) : HostRun Unit := do
  let (cell, object) ← stateOf self
  modifyStore fun store => store.put cell (.object (object.detach event handler))

/-- What adds a handler to an event of a source, and what removes it again. -/
structure EventHooks where
  add : Value → String → CellId → HostRun Unit
  remove : Value → String → CellId → HostRun Unit

/-- The hooks of events whose handlers objects keep. -/
def EventHooks.kept : EventHooks := ⟨addHandler, removeHandler⟩

/-- Undoes a bond, once. -/
def EventHooks.undo (hooks : EventHooks) (self : Value) : HostRun Unit := do
  let (cell, bond) ← connectionOf self
  if bond.connected then
    modifyStore fun store => store.put cell (.connection { bond with connected := false })
    hooks.remove bond.source bond.event bond.handler

/-- Undoes a bond to an event whose handlers its object keeps. -/
def undoConnection (self : Value) : HostRun Unit := EventHooks.kept.undo self

/-- Runs the body of a member. -/
def Body.run (calls : Calls) (setting : Setting) (arguments : List Value) :
    Body → HostRun (Value × List Value)
  | .code label statements => do
    logRun label arguments setting.assigned
    runCode calls setting arguments statements
  | .disconnect => do
    undoConnection setting.self
    return (.null, arguments)
  | .connected => do
    return (.bool (← connectionOf setting.self).2.connected, arguments)

end ScriptBridge.Host
