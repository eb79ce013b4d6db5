/-
This file runs frames. A frame enters the session of its engine, polls for an
interrupt, runs its body and leaves. When the outermost frame of an engine ends,
the roots of proxies that have died are released, and a collection owed to that
moment is done instead; the result of the frame outlives both.
-/

import ScriptBridge.Calls

namespace ScriptBridge.Bridge

open Run

/-! ### Sweeping -/

/-- What a sweep did: the roots released and the dead entries removed. -/
structure Swept where
  released : Nat
  pruned : Nat
  deriving DecidableEq, Repr, Inhabited

/-- Releases the roots whose tickets have been left, and counts them. -/
def releaseDropped {Failure : Type} (engine : EngineId) : Run Failure Nat := do
  reap
  let (cache, released) := (← Run.engine engine).cache.drain
  modifyEngine engine fun engine => { engine with cache }
  return released

/-- Releases roots and removes the entries of dead proxies. -/
def sweep {Failure : Type} (engine : EngineId) : Run Failure Swept := do
  let released ← releaseDropped engine
  reap
  let isLive ← readStore (·.isLive)
  let (cache, pruned) := (← Run.engine engine).cache.prune isLive
  modifyEngine engine fun engine => { engine with cache }
  return ⟨released, pruned⟩

/-- Collects garbage now, if no call is in progress on the engine; otherwise the collection is
owed until the outermost call ends. -/
def collect {Failure : Type} (engine : EngineId) : Run Failure (Option Swept) := do
  if (← Run.engine engine).session.isBusy then
    modifyEngine engine fun engine => { engine with session := engine.session.owe }
    return none
  else
    update fun world => { world with collections := world.collections + 1 }
    return some (← sweep engine)

/-! ### Frames -/

/-- The failure of a settled run. -/
def failure? {Result : Type} : Except ScriptError Result → Option ScriptError
  | .ok _ => none
  | .error error => some error

/-- The cells of a settled run's result or failure. -/
def outcomeCells {Result : Type} [HoldsCells Result] : Except ScriptError Result → List CellId
  | .ok result => HoldsCells.cells result
  | .error error => error.cells

/-- What an engine does when its outermost call has ended. -/
def settleEngine (engine : EngineId) (collectionOwed : Bool) : ScriptRun Unit := do
  if collectionOwed then discard (sweep engine) else discard (releaseDropped engine)

/-- Runs a body as a frame of an engine. When that was the outermost, what is done on idling is told
whether a collection is owed, and the result of the frame outlives it. -/
def frameWith {Result : Type} [HoldsCells Result] (onIdle : Bool → ScriptRun Unit)
    (engine : EngineId) (kind : FrameKind) (body : ScriptRun Result) : ScriptRun Result := do
  let entered ← ofExcept ((← Run.engine engine).session.enter kind)
  modifyEngine engine fun engine => { engine with session := entered }
  let outcome ← settle (scope (do ofExcept entered.poll; body))
  let (session, ended) := (← Run.engine engine).session.leave (failure? outcome)
  modifyEngine engine fun engine => { engine with session }
  if let some collectionOwed := ended then
    scope (do holdCells (outcomeCells outcome); onIdle collectionOwed)
  ofExcept outcome

/-- Runs a body as a frame of an engine, which settles when its outermost call has ended. -/
def frame {Result : Type} [HoldsCells Result] (engine : EngineId) (kind : FrameKind)
    (body : ScriptRun Result) : ScriptRun Result :=
  frameWith (settleEngine engine) engine kind body

/-- Fails if the engine has been disposed. -/
def requireAlive (engine : EngineId) : ScriptRun Unit := do
  let state ← Run.engine engine
  if state.isDisposed then raise state.disposedError

/-- Runs host code as a frame of the engine that calls it. Its failures become execution faults; an
interrupt unwinds further only if it was asked of this engine. -/
def callHost {Result : Type} [HoldsCells Result] (engine : EngineId) (body : HostRun Result) :
    ScriptRun Result := do
  requireAlive engine
  frame engine .hostCall <|
    mapFailure (fun world error =>
      error.toScriptError (world.engine engine).session.interruptRequested) body

end ScriptBridge.Bridge
