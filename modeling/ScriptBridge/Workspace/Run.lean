/-
This file runs the steps of a workspace. Host items, scripts, conversions and the
controls of engines work as an engine offers them to the host; what a step
answers is shown as it stands when the step ends.
-/

import ScriptBridge.Host.Definition
import ScriptBridge.Script.Module
import ScriptBridge.Settings
import ScriptBridge.Workspace.Step

namespace ScriptBridge.Workspace

open Run Bridge Binding Script

/-! ### Scripts -/

/-- Runs code in a scope of an engine. -/
def runScope (calls : Calls) (engine : EngineId) (body : Code) : ScriptRun Script.Value := do
  requireAlive engine
  let document ← nextDocument engine
  frame engine .script (inLocals (body.run calls ⟨engine, document, []⟩))

/-- Marshals arguments. -/
def marshalAll (calls : Calls) (engine : EngineId) :
    List Host.Value → ScriptRun (List Script.Value)
  | [] => return []
  | value :: rest => do
    let converted ← held (toScript calls engine value .object)
    return converted :: (← marshalAll calls engine rest)

/-- Calls a global. -/
def invokeGlobal (calls : Calls) (engine : EngineId) (name : String)
    (arguments : List Host.Value) : ScriptRun Host.Value := do
  let result ← held (frame engine .script do
    match (← Run.engine engine).globals.get? name with
    | none => raise (.missingMember name)
    | some callee =>
      let callee ← hold callee
      callValue calls engine callee (← marshalAll calls engine arguments))
  toHostValue engine result

/-! ### Host items -/

/-- Exposes a proxy as a global. -/
def expose (engine : EngineId) (name : String) (flags : ItemFlags) (proxy : CellId) :
    ScriptRun Unit :=
  modifyEngine engine fun engine =>
    { engine with
      globals := engine.globals.put name (.proxy proxy)
      globalMembers :=
        if flags.contains .globalMembers then engine.globalMembers ++ [proxy]
        else engine.globalMembers }

/-- Exposes a host value as a global. -/
def addObject (engine : EngineId) (name : String) (flags : ItemFlags) (value : Host.Value) :
    ScriptRun Unit := do
  let proxy ← match value with
    | .type type => findHandle engine type flags
    | value =>
      if value.isValueLike then boxValue engine value flags
      else do proxyReference engine value (← readStore (·.typeOf value)) flags
  expose engine name flags proxy

/-- Exposes a type as a global. -/
def addType (engine : EngineId) (name : String) (flags : ItemFlags) (type : Host.TypeRef) :
    ScriptRun Unit := do
  requireAlive engine
  expose engine name flags (← findHandle engine type flags)

/-- Exposes types under their own names. -/
def addTypes (engine : EngineId) : List Host.TypeRef → ScriptRun Unit
  | [] => return ()
  | type :: rest => do
    addType engine ((← types).display type) .none type
    addTypes engine rest

/-! ### Engines -/

/-- Creates an engine. -/
def createEngine {Failure : Type} (name : String) (options : Options)
    (loader : Option Loader) : Run Failure Unit :=
  update fun world => { world with engines := world.engines.push (.new name options loader) }

/-- The engines of a world that are not disposed. -/
def openEngines (world : World) : List EngineId :=
  (List.range world.engines.size).filter fun engine =>
    (world.engine engine).alive && !(world.engine engine).isDisposed

/-- Collects on engines. -/
def collectOn : Collected → List EngineId → ScriptRun Collected
  | done, [] => return done
  | done, engine :: rest => do
    match ← collect engine with
    | some swept =>
      collectOn
        { done with swept := done.swept + 1, released := done.released + swept.released } rest
    | none => collectOn { done with deferred := done.deferred + 1 } rest

/-- What an engine holds. -/
def countsOf (engine : EngineId) : ScriptRun Counts := do
  reap
  let world ← observe id
  let state := world.engine engine
  return { cached := state.cache.liveCount world.store.isLive
           roots := state.cache.roots.length, modules := state.modules.records.length
           collections := world.collections, scriptHeap := Source.size world.scripts }

/-- What counts against the limit of the heap. -/
def heapInfo : ScriptRun HeapInfo := do
  reap
  let world ← observe id
  return { proxies := world.heap.proxies, functions := world.heap.functions
           modules := world.heap.modules, engines := world.liveEngines
           isOver := world.isOverLimit }

/-- Asks an engine, and then the handle others have of it, for an interrupt. -/
def interrupt (engine : EngineId) : ScriptRun (List Bool) := do
  let name := (← Run.engine engine).name
  let first ← Host.interruptEngine name
  let second ← Host.interruptEngine name
  return [first, second, (← Run.engine engine).session.state == .running]

/-- Has the module of a specifier completed? -/
def isEvaluated (engine : EngineId) (specifier : String) : ScriptRun Bool := do
  return (← Run.engine engine).modules.isEvaluated specifier

/-! ### Steps -/

/-- Answers with a script value, kept in a register if one is given. -/
def answerScript (keep : Option String) (run : ScriptRun Script.Value) : ScriptRun Answer := do
  let value ← held run
  if let some register := keep then
    update fun world => { world with registers := world.registers.put register value }
  return .value (← observe (·.shownScript value))

/-- Answers with a host value. -/
def answerHost (run : ScriptRun Host.Value) : ScriptRun Answer := do
  let value ← held run
  return .value (← observe (·.shownHost value))

/-- Answers with nothing. -/
def answerNothing (run : ScriptRun Unit) : ScriptRun Answer := do
  run
  return .nothing

/-- The values literals stand for, in use until the scope ends. -/
def evaluateLiterals (literals : List Host.Literal) : ScriptRun (List Host.Value) :=
  held (Host.Literal.evaluateAll literals)

/-- Does what a step says, on an engine. -/
def perform (calls : Calls) (engine : EngineId) (keep : Option String) :
    Action → ScriptRun Answer
  | .script body => answerScript keep (runScope calls engine body)
  | .evaluateScript source => answerScript keep (runScript calls engine source)
  | .toScript value type =>
    answerScript keep do toScript calls engine (← held value.evaluate) type
  | .scriptGlobal name => do
    match (← Run.engine engine).globals.get? name with
    | some value => answerScript keep (return value)
    | none => return .nothing
  | .toHost body type => answerHost do
    let value ← held (runScope calls engine body)
    return (← converting (toHost engine value type)).value
  | .evaluate source => answerHost (evaluate calls engine source)
  | .evaluateModule specifier source => answerHost (evaluateModule calls engine specifier source)
  | .evaluateDocument document source => answerHost (evaluateDocument calls engine document source)
  | .importModule specifier => answerHost do
    toHostValue engine (← held (importModule calls engine specifier none))
  | .invoke name arguments => answerHost do
    invokeGlobal calls engine name (← evaluateLiterals arguments)
  | .global name => do
    match (← Run.engine engine).globals.get? name with
    | some value => answerHost (toHostValue engine value)
    | none => return .nothing
  | .execute source => answerNothing (discard (runScript calls engine source))
  | .addObject name flags value => answerNothing do
    addObject engine name flags (← held value.evaluate)
  | .addType name flags type => answerNothing (addType engine name flags type)
  | .addTypes types => answerNothing (addTypes engine types)
  | .addFunctions name =>
    answerNothing (addType engine name .none (.named Host.Builtin.functions))
  | .setGlobal name register => answerNothing do
    let value := ((← observe (·.registers)).get? register).getD .undefined
    writeGlobal engine name value
  | .setDefaultAccess access =>
    answerNothing (govern engine ({ · with defaultAccess := access }))
  | .setAccessContext type =>
    answerNothing (govern engine ({ · with accessContext := type }))
  | .state => do
    let session := (← Run.engine engine).session
    return .states session.state session.outcome
  | .interrupt => do return .flags (← interrupt engine)
  | .collect => do return .swept (← collect engine)
  | .collectAll => do return .collected (← collectOn {} (← observe openEngines))
  | .counts => do return .counts (← countsOf engine)
  | .heap => do return .heap (← heapInfo)
  | .isEvaluated specifier => do return .flag (← isEvaluated engine specifier)
  | .isDisposed => do return .flag (← Run.engine engine).isDisposed
  | .dispose => answerNothing (modifyEngine engine Engine.dispose)
  | .options => do
    let options := (← Run.engine engine).options
    let table ← types
    return .options options (options.accessContext.map fun key => (table.type key).name)
  | .object label => do
    match (← observe (·.objects)).get? label with
    | some value => answerHost (return value)
    | none => return .nothing
  | .drop register => do
    let found := (← observe (·.registers)).has register
    update fun world => { world with registers := world.registers.erase register }
    return .flag found
  | .dropEngine name => do
    match ← observe (·.engineNamed? name) with
    | some dropped =>
      modifyEngine dropped Engine.close
      return .flag true
    | none => return .flag false
  | .dropObject label => do
    let found := (← observe (·.objects)).has label
    update fun world => { world with objects := world.objects.erase label }
    return .flag found
  | .createEngine name options => answerNothing (createEngine name options none)
  | .engines => do
    let world ← observe id
    return .names ((openEngines world).map fun engine => (world.engine engine).name)

/-- The outcome of a step and the world after it. What the step made use of is no longer in use
then. -/
def runStep (calls : Calls) (step : Step) (world : World) : Outcome × World :=
  let engine := (world.engineNamed? step.engine).getD 0
  let (result, after) :=
    scope (perform calls engine step.keep step.action) { world with log := #[] }
  let result : Option (Except Report Answer) := match result with
    | .ok answer => some (.ok answer)
    | .error (.raised error) => some (.error (error.report after))
    | .error .exhausted => none
  ({ result, log := after.log.toList }, after)

/-- The outcomes of steps in order. -/
def runSteps (calls : Calls) : List Step → World → List Outcome
  | [], _ => []
  | step :: rest, world =>
    let (outcome, after) := runStep calls step world
    outcome :: runSteps calls rest after

/-! ### Workspaces -/

/-- An engine of a workspace; without options of its own it has those of the settings. -/
structure EngineSetup where
  name : String
  options : Options → Options := id

/-- What a workspace starts from. -/
structure Setup where
  types : List Host.TypeDefinition := []
  settings : Settings := {}
  scripts : Named Code := []
  /-- Module sources by specifier, if engines can load modules. -/
  modules : Option (List (String × String)) := none
  engines : List EngineSetup := []
  objects : List (String × Host.Literal) := []

/-- Makes the objects that are held under labels. -/
def makeObjects {Failure : Type} : List (String × Host.Literal) → Run Failure Unit
  | [] => return ()
  | (label, literal) :: rest => do
    let value ← literal.evaluate
    update fun world => { world with objects := world.objects.put label value }
    makeObjects rest

/-- The loader of module sources, by specifiers in their one form. -/
def loaderOf (modules : List (String × String)) : Loader :=
  .inMemory (modules.foldl (fun sources entry =>
    Named.put sources (Specifier.normalize entry.1 none) entry.2) [])

/-- Makes what a workspace starts from. -/
def Setup.make {Failure : Type} (setup : Setup) : Run Failure Unit := scope do
  Host.registerAll setup.types
  let scripts := setup.scripts.foldl (fun scripts entry =>
    Source.register scripts entry.1 entry.2) []
  update fun world => { world with scripts, heapLimit := setup.settings.heapLimit }
  for engine in setup.engines do
    createEngine engine.name (engine.options setup.settings.engine) (setup.modules.map loaderOf)
  makeObjects setup.objects

/-- The world that a workspace starts from. -/
def Setup.world (setup : Setup) : World :=
  let start : World := { store := { types := Host.Builtin.types } }
  ((setup.make : Run Unit Unit) start).2

/-- How deep the calls of a workspace can nest. -/
def greatestDepth : Nat := 1000000

/-- The outcomes of the steps taken in a workspace. -/
def Setup.run (setup : Setup) (steps : List Step) : List Outcome :=
  runSteps (startWithin greatestDepth) steps setup.world

end ScriptBridge.Workspace
