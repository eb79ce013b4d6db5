/-
This file calls script functions, from script and from behind delegates. A
function always runs on the engine it belongs to. When another engine calls it,
the call is a frame of both; what goes in and what comes out is adopted, and an
interrupt of the callee that was not asked of the caller is an ordinary fault
there.
-/

import ScriptBridge.Script.Run

namespace ScriptBridge.Script

open Run Bridge

/-! ### Functions -/

/-- Values for the engine that receives them. -/
def adoptAll (engine : EngineId) : List Value → ScriptRun (List Value)
  | [] => return []
  | value :: rest => do
    let own ← held (adopt engine value)
    return own :: (← adoptAll engine rest)

/-- Fails if the engine of a function is gone. -/
def requireOwner (function : Function) : ScriptRun Unit := do
  if (← Run.engine function.engine).isDisposed then
    raise (.disposed s!"engine of function '{function.name}' is gone")

/-- The failure of a call into another engine as the caller meets it. -/
def foreignFailure (caller : EngineId) (world : World) (error : ScriptError) : ScriptError :=
  if error.isInterrupt && !(world.engine caller).session.interruptRequested then
    .execution (.nested error)
  else error

/-- Calls a function from an engine. -/
def callFunction (calls : Calls) (engine : EngineId) (cell : CellId) (arguments : List Value) :
    ScriptRun Value := scope do
  holdCells (cell :: arguments.flatMap Value.cells)
  let function ← readStore (·.function cell)
  if function.engine == engine then
    requireAlive engine
    frame engine .script
      (inLocals (function.body.run calls ⟨engine, function.document, arguments⟩))
  else
    requireOwner function
    let result ← held (frame engine .foreign do
      let own ← adoptAll function.engine arguments
      mapFailure (foreignFailure engine) (calls.callFunction function.engine cell own))
    adopt engine result

/-! ### Delegates -/

/-- The declared type of an argument and whether it is passed by reference. -/
def argumentShape (signature : Host.Signature) (place : Nat) : Host.TypeRef × Bool :=
  match signature.parameters[place]? with
  | some parameter => (parameter.type, parameter.passing != .byValue)
  | none => (.object, false)

/-- The arguments of a callback for script, with the boxes made for arguments passed by
reference. -/
def callbackArguments (calls : Calls) (engine : EngineId) (signature : Host.Signature) :
    Nat → List Host.Value → ScriptRun (List Value × List (Nat × CellId))
  | _, [] => return ([], [])
  | place, argument :: rest => do
    let (declared, byReference) := argumentShape signature place
    if byReference && (← Run.engine engine).options.autoBoxes then
      let box ← create (.box declared argument)
      let value ← held (toScript calls engine (.box box) (.box declared))
      let (values, boxes) ← callbackArguments calls engine signature (place + 1) rest
      return (value :: values, (place, box) :: boxes)
    else
      let value ← held (toScript calls engine argument declared)
      let (values, boxes) ← callbackArguments calls engine signature (place + 1) rest
      return (value :: values, boxes)

/-- Runs the script function behind a delegate. The result comes with the boxes made for arguments
passed by reference. -/
def runCallback (calls : Calls) (engine : EngineId) (function : CellId)
    (signature : Host.Signature) (arguments : List Host.Value) :
    ScriptRun (Value × List (Nat × CellId)) := do
  let (values, boxes) ← callbackArguments calls engine signature 0 arguments
  return (← held (calls.callFunction engine function values), boxes)

/-- The arguments with what the boxes made for them hold. -/
def receiveBoxes (store : Store) (boxes : List (Nat × CellId)) (arguments : List Host.Value) :
    List Host.Value :=
  boxes.foldl (fun left (place, box) => left.set place (store.boxValue box)) arguments

/-- The result of a callback for the host. -/
def callbackResult (engine : EngineId) (signature : Host.Signature) (result : Value) :
    ScriptRun Host.Value := do
  if signature.result == .void then return .null
  else return (← held (converting (toHost engine result signature.result))).value

/-- Calls the script function behind a delegate, with what becomes of the arguments however that
ends: once the function has returned, what its boxes hold. -/
def tryCallBack (calls : Calls) (function : CellId) (signature : Host.Signature)
    (arguments : List Host.Value) : ScriptRun (Except ScriptError Host.Value × List Host.Value) :=
  scope do
    let contents ← readStore (·.function function)
    let engine := contents.engine
    match ← settle (do
      requireOwner contents
      runCallback calls engine function signature arguments) with
    | .error error => return (.error error, arguments)
    | .ok (result, boxes) =>
      let left := receiveBoxes (← readStore id) boxes arguments
      return (← settle (callbackResult engine signature result), left)

/-- Calls the script function behind a delegate. What its boxes hold afterwards becomes the
arguments. -/
def callBack (calls : Calls) (function : CellId) (signature : Host.Signature)
    (arguments : List Host.Value) : ScriptRun (Host.Value × List Host.Value) := do
  let (answer, left) ← tryCallBack calls function signature arguments
  return (← ofExcept answer, left)

/-- Invokes a delegate. -/
def invokeDelegate (calls : Calls) (cell : CellId) (arguments : List Host.Value) :
    HostRun (Host.Value × List Host.Value) := scope do
  holdCells (cell :: Host.Value.cellsOf arguments)
  match ← readStore (·.get? cell) with
  | some (.delegate _ (.code body)) => Host.runCode calls {} arguments body
  | some (.delegate type (.function function)) =>
    let signature := ((← types).type type).signature?.getD ⟨[], .void⟩
    mapFailure (fun _ error => .nested error) (callBack calls function signature arguments)
  | _ => return (.null, arguments)

end ScriptBridge.Script
