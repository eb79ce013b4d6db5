/-
This file runs documents. A classic script runs every time it is evaluated. A
module runs once: it is recorded under its specifier before it runs, so that
importing it again, even while it runs, yields undefined, and the record is
removed if it fails.
-/

import ScriptBridge.Script.Function

namespace ScriptBridge.Script

open Run Bridge

/-! ### Compiled documents -/

/-- What a source text means as a document. -/
def compile (document : Document) (source : String) : ScriptRun Compiled := do
  ofExcept (Source.compile (← observe (·.scripts)) document source)

/-- Follows a path of names from a value. -/
def followPath (calls : Calls) (engine : EngineId) : Value → List String → ScriptRun Value
  | value, [] => return value
  | value, name :: rest => do
    let next ← scope (do holdCells value.cells; getProperty calls engine value name)
    followPath calls engine next rest

/-- Runs a compiled document. -/
def runCompiled (calls : Calls) (engine : EngineId) (document : Document) :
    Compiled → ScriptRun Value
  | .code body => inLocals (body.run calls ⟨engine, document, []⟩)
  | .literal value => return value
  | .path first rest => do
    followPath calls engine (← scope (readGlobal calls engine first)) rest

/-! ### Scripts -/

/-- The document of the next script of an engine. -/
def nextDocument (engine : EngineId) : ScriptRun Document := do
  modifyEngine engine fun engine => { engine with documents := engine.documents + 1 }
  return .script s!"Script Document [{(← Run.engine engine).documents}]"

/-- Runs a source text as a script. -/
def runDocument (calls : Calls) (engine : EngineId) (document : Document) (source : String) :
    ScriptRun Value := do
  requireAlive engine
  frame engine .script do
    runCompiled calls engine document (← compile document source)

/-- Runs a source text as the next script of an engine. -/
def runScript (calls : Calls) (engine : EngineId) (source : String) : ScriptRun Value := do
  runDocument calls engine (← nextDocument engine) source

/-- Evaluates a source text on an engine, for the host. -/
def evaluate (calls : Calls) (engine : EngineId) (source : String) : ScriptRun Host.Value :=
  scope do toHostValue engine (← held (runScript calls engine source))

/-! ### Modules -/

/-- Changes the records of an engine's modules. -/
def modifyModules (engine : EngineId) (change : ModuleCache → ModuleCache) : ScriptRun Unit :=
  modifyEngine engine fun engine => { engine with modules := change engine.modules }

/-- Runs the body of a module that is recorded and notes that it completed; one that fails is removed
from the records. -/
def runRecorded (calls : Calls) (engine : EngineId) (record : CellId) (specifier : String)
    (compiled : Compiled) : ScriptRun Value := do
  match ← settle (frame engine .script
      (runCompiled calls engine (.module specifier) compiled)) with
  | .ok value =>
    modifyModules engine (·.complete specifier record)
    return value
  | .error error =>
    modifyModules engine (·.drop specifier)
    raise error

/-- Records a module and runs its body. -/
def runModule (calls : Calls) (engine : EngineId) (specifier : String) (compiled : Compiled) :
    ScriptRun Value := do
  let record ← create .module
  modifyModules engine (·.start specifier record)
  runRecorded calls engine record specifier compiled

/-- What asking for a recorded module comes to. -/
def passModule (engine : EngineId) (specifier : String) : ScriptRun Value := do
  modifyModules engine (·.pass specifier)
  return .undefined

/-- What asking for a module that cannot be made to run comes to. -/
def refuseModule (engine : EngineId) (specifier : String) (error : ScriptError) :
    ScriptRun Value := do
  modifyModules engine (·.refuse specifier)
  raise error

/-- Compiles a source text as a module for an engine that is not disposed. -/
def prepareModule (engine : EngineId) (specifier source : String) : ScriptRun Compiled := do
  requireAlive engine
  compile (.module specifier) source

/-- Runs a source text as a module, unless one of that specifier is recorded. -/
def runModuleSource (calls : Calls) (engine : EngineId) (specifier source : String) :
    ScriptRun Value := scope do
  if (← Run.engine engine).modules.has specifier then passModule engine specifier
  else match ← settle (prepareModule engine specifier source) with
    | .ok compiled => runModule calls engine specifier compiled
    | .error error => refuseModule engine specifier error

/-- Imports a module through the loader of an engine. -/
def importModule (calls : Calls) (engine : EngineId) (specifier : String)
    (referrer : Option String) : ScriptRun Value := do
  let state ← Run.engine engine
  match state.loader with
  | none => raise (.notSupported "no module loader is configured")
  | some loader =>
    let normalized ← ofExcept (loader.normalize specifier referrer)
    if state.modules.has normalized then passModule engine normalized
    else match loader.load normalized with
      | .ok source => runModuleSource calls engine normalized source
      | .error error => refuseModule engine normalized error

/-- Evaluates a source text as a module, for the host. -/
def evaluateModule (calls : Calls) (engine : EngineId) (specifier source : String) :
    ScriptRun Host.Value := scope do
  let normalized ← ofExcept ((← Run.engine engine).normalize specifier)
  toHostValue engine (← held (runModuleSource calls engine normalized source))

/-- Evaluates a source text as a document of its own, for the host. -/
def evaluateDocument (calls : Calls) (engine : EngineId) (document : Document) (source : String) :
    ScriptRun Host.Value := do
  if document.isModule then
    evaluateModule calls engine (document.specifier.getD document.name) source
  else scope do toHostValue engine (← held (runDocument calls engine document source))

/-! ### Depth -/

/-- What code can start, given what can be started one level deeper, which is made when it is
needed. -/
def startFrom (deeper : Unit → Calls) : Calls where
  callFunction engine function arguments := callFunction (deeper ()) engine function arguments
  callValue engine callee arguments := Binding.callValue (deeper ()) engine callee arguments
  assignThrough engine target keys value := Binding.assignThrough (deeper ()) engine target keys value
  toScript engine value type := toScript (deeper ()) engine value type
  toText engine value := textOf (deeper ()) engine value
  invokeDelegate delegate arguments := invokeDelegate (deeper ()) delegate arguments
  evaluate engine source := evaluate (deeper ()) engine source
  importModule engine specifier referrer := importModule (deeper ()) engine specifier referrer

/-- What code can start within a depth. -/
def startWithin : Nat → Calls
  | 0 => .exhausted
  | depth + 1 => startFrom fun _ => startWithin depth

end ScriptBridge.Script
