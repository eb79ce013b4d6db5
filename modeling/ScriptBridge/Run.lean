/-
This file holds what running code does: a run takes a world to a result and a
world. A run that fails keeps what it changed, and running out of depth is told
apart from every failure. Cells in use are noted while a scope lasts, so that
nothing a run still needs can die under it.
-/

import ScriptBridge.World

namespace ScriptBridge

/-- Why a run has no value: it failed, or the depth it was given ran out. -/
inductive Halt (Failure : Type)
  | raised (error : Failure)
  | exhausted
  deriving Repr

/-- A computation in a world that may fail. -/
abbrev Run (Failure Result : Type) := ExceptT (Halt Failure) (StateM World) Result

/-- What script operations do. -/
abbrev ScriptRun := Run ScriptError

/-- What host code does. -/
abbrev HostRun := Run HostError

/-! ### Cells of results -/

/-- A result that holds cells. -/
class HoldsCells (Result : Type) where
  cells : Result → List CellId

instance : HoldsCells Unit := ⟨fun _ => []⟩
instance : HoldsCells Bool := ⟨fun _ => []⟩
instance : HoldsCells Host.Value := ⟨Host.Value.cells⟩
instance : HoldsCells Script.Value := ⟨Script.Value.cells⟩
instance {Result : Type} [HoldsCells Result] : HoldsCells (Option Result) :=
  ⟨fun result => (result.map HoldsCells.cells).getD []⟩
instance {Result : Type} [HoldsCells Result] : HoldsCells (List Result) :=
  ⟨fun results => results.flatMap HoldsCells.cells⟩
instance {First Second : Type} [HoldsCells First] [HoldsCells Second] :
    HoldsCells (First × Second) :=
  ⟨fun pair => HoldsCells.cells pair.1 ++ HoldsCells.cells pair.2⟩

namespace Run

variable {Failure Result : Type}

/-! ### Worlds and failures -/

/-- The run that fails. -/
def raise (error : Failure) : Run Failure Result := throw (.raised error)

/-- The run that has got out of depth. -/
def exhausted : Run Failure Result := throw .exhausted

/-- A part of the world. -/
def observe (part : World → Result) : Run Failure Result := fun world => (.ok (part world), world)

/-- A change of the world. -/
def update (change : World → World) : Run Failure Unit := fun world => (.ok (), change world)

/-- The run with the value or the failure of a plain result. -/
def ofExcept : Except Failure Result → Run Failure Result
  | .ok result => pure result
  | .error error => raise error

/-- The value or failure of a run, as its value; running out of depth stays as it is. -/
def settle {Other : Type} (run : Run Failure Result) : Run Other (Except Failure Result) :=
  fun world =>
  match run world with
  | (.ok result, after) => (.ok (.ok result), after)
  | (.error (.raised error), after) => (.ok (.error error), after)
  | (.error .exhausted, after) => (.error .exhausted, after)

/-- The run with its failure seen another way, given the world it left. -/
def mapFailure {Other : Type} (change : World → Failure → Other) (run : Run Failure Result) :
    Run Other Result := fun world =>
  match run world with
  | (.ok result, after) => (.ok result, after)
  | (.error (.raised error), after) => (.error (.raised (change after error)), after)
  | (.error .exhausted, after) => (.error .exhausted, after)

/-! ### Cells in use -/

/-- The run with every cell it notes forgotten at its end. -/
def scope (run : Run Failure Result) : Run Failure Result := fun world =>
  let held := world.held
  let (result, after) := run world
  (result, { after with held })

/-- Notes cells as in use until the scope ends. -/
def holdCells (cells : List CellId) : Run Failure Unit := update (·.holding cells)

/-- Notes the cells of a value as in use until the scope ends. -/
def hold [HoldsCells Result] (result : Result) : Run Failure Result := fun world =>
  (.ok result, world.holding (HoldsCells.cells result))

/-- A run's result, noted as in use. -/
def held [HoldsCells Result] (run : Run Failure Result) : Run Failure Result := run >>= hold

/-- Takes a handle of a cell, besides those that there are, until the scope ends. -/
def keep (cell : CellId) : Run Failure Unit :=
  update fun world => { world with held := cell :: world.held }

/-- A new cell, in use until the scope ends. -/
def create (cell : Cell) : Run Failure CellId := fun world =>
  let (after, created) := world.create cell
  (.ok created, { after with held := created :: after.held })

/-! ### The store and the engines -/

/-- A part of the store. -/
def readStore (part : Store → Result) : Run Failure Result := observe fun world => part world.store

/-- A change of the store. -/
def modifyStore (change : Store → Store) : Run Failure Unit :=
  update fun world => { world with store := change world.store }

/-- The registered types. -/
def types : Run Failure Host.TypeTable := readStore (·.types)

/-- An engine. -/
def engine (engine : EngineId) : Run Failure Engine := observe (·.engine engine)

/-- A change of an engine. -/
def modifyEngine (engine : EngineId) (change : Engine → Engine) : Run Failure Unit :=
  update (·.modifyEngine engine change)

/-- A script value in the words of messages. -/
def describe (value : Script.Value) : Run Failure String := observe (·.describe value)

/-- The text of the type of a host value. -/
def typeText (value : Host.Value) : Run Failure String := readStore (·.typeText value)

/-- The text of a host value. Looking into boxes that lead round in a ring never ends. -/
def valueText (value : Host.Value) : Run Failure String := do
  match ← readStore (·.text? value) with
  | some text => return text
  | none => exhausted

/-- The texts of host values. -/
def valueTexts : List Host.Value → Run Failure (List String)
  | [] => return []
  | value :: rest => do
    let text ← valueText value
    return text :: (← valueTexts rest)

/-- Adds to the log. -/
def log (entry : LogEntry Shown) : Run Failure Unit :=
  update fun world => { world with log := world.log.push entry }

/-- Adds to the history. -/
def note (event : Binding.MemberEvent) : Run Failure Unit :=
  update fun world => { world with history := event :: world.history }

/-- Asks an engine to interrupt its call, and tells whether the request was accepted. -/
def requestInterrupt (engine : EngineId) : Run Failure Bool := do
  let (accepted, session) := (← Run.engine engine).session.requestInterrupt
  modifyEngine engine fun engine => { engine with session }
  return accepted

/-- Changes the policy of an engine. -/
def govern (engine : EngineId) (change : Policy → Policy) : Run Failure Unit := do
  let policy := change (← Run.engine engine).policy
  modifyEngine engine fun engine => { engine with policy }
  note (.governed engine policy)

/-- The world with its dead cells gone. -/
def reap : Run Failure Unit := update World.reap

end Run

end ScriptBridge
