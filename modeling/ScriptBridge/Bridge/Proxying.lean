/-
This file makes proxies. A value held by reference has one proxy per view and
flags while that proxy lives, and so has a type; a value held by value gets a new
proxy each time. Before a proxy is made the limit of the heap is enforced, after
a sweep if need be. A proxy never serves another engine: a value that crosses is
given a proxy of the engine that receives it.
-/

import ScriptBridge.Bridge.Frame

namespace ScriptBridge.Bridge

open Run

/-- The error of making a proxy for a disposed engine. -/
def disposedCache : ScriptError := .disposed "engine has been disposed"

/-- Fails if the engine's proxies are no longer valid. -/
def requireCache (engine : EngineId) : ScriptRun Unit := do
  if (← Run.engine engine).isDisposed then raise disposedCache

/-- Enforces the limit of the heap. -/
def reserve (engine : EngineId) : ScriptRun Unit := do
  if (← observe (·.heapLimit)).isSome then reap
  if ← observe (·.isOverLimit) then
    discard (sweep engine)
    if ← observe (·.isOverLimit) then raise (.plain "Error" "runtime heap limit exceeded")

/-- The living proxy of a key. Only where there is an entry does it matter who has died. -/
def findLive {Key : Type} [BEq Key] (entries : List (Key × CellId)) (key : Key) :
    ScriptRun (Option CellId) := do
  if entries.any fun entry => entry.1 == key then reap
  return ProxyCache.find? entries (← readStore (·.isLive)) key

/-- The living proxy of a key among the entries, or a new one that is added to the record. -/
def findOrMake {Key : Type} [BEq Key] (entries : ProxyCache → List (Key × CellId))
    (add : ProxyCache → CellId → ProxyCache) (key : Key) (proxy : Proxy) : ScriptRun CellId := do
  match ← findLive (entries (← Run.engine proxy.engine).cache) key with
  | some found => do keep found; return found
  | none =>
    let made ← create (.proxy proxy)
    modifyEngine proxy.engine fun engine => { engine with cache := add engine.cache made }
    return made

/-- The proxy of a value held by reference: the living one or a new one. -/
def findReference (engine : EngineId) (value : Host.Value) (view : Option Host.TypeKey)
    (flags : ItemFlags) : ScriptRun CellId := do
  requireCache engine
  match value.identity?, value.hasWeakForm with
  | some target, true =>
    let key : ReferenceKey := ⟨target, view, flags.identity⟩
    findOrMake (·.references) (·.addReference key · value) key
      ⟨engine, .reference value, view, flags⟩
  | _, _ => raise (.notSupported s!"{← typeText value} is not a reference type")

/-- The proxy of a type: the living one or a new one. -/
def findHandle (engine : EngineId) (type : Host.TypeRef) (flags : ItemFlags) :
    ScriptRun CellId := do
  requireCache engine
  let key : HandleKey := ⟨type, flags.identity⟩
  findOrMake (·.handles) (·.addHandle key ·) key ⟨engine, .type type, none, flags⟩

/-- A new proxy of a value held by value, which the record does not keep. -/
def makeBoxed (engine : EngineId) (value : Host.Value) (flags : ItemFlags) : ScriptRun CellId := do
  requireCache engine
  create (.proxy ⟨engine, .boxed value, none, flags⟩)

/-- A new proxy of a value held by value, if the heap has room. -/
def boxValue (engine : EngineId) (value : Host.Value) (flags : ItemFlags) : ScriptRun CellId := do
  holdCells value.cells
  reserve engine
  makeBoxed engine value flags

/-- The view a declared type asks for: an interface that the value implements. -/
def viewFor (store : Store) (value : Host.Value) (declared : Host.TypeRef) : Option Host.TypeKey :=
  declared.key?.filter fun key =>
    (store.types.type key).isInterface && store.isInstance value declared

/-- The proxy of a value held by reference, seen through the declared type where that is an
interface. -/
def proxyReference (engine : EngineId) (value : Host.Value) (declared : Host.TypeRef)
    (flags : ItemFlags) : ScriptRun CellId := do
  holdCells value.cells
  let view ← readStore fun store => viewFor store value declared
  reserve engine
  findReference engine value view flags

/-- The value for an engine that receives it: a proxy of another engine is replaced. -/
def adopt (engine : EngineId) (value : Script.Value) : ScriptRun Script.Value := do
  holdCells value.cells
  match value with
  | .proxy cell =>
    let proxy ← readStore (·.proxy cell)
    if proxy.engine == engine then return value
    match proxy.target with
    | .type type => return .proxy (← findHandle engine type proxy.flags)
    | .boxed boxed => return .proxy (← boxValue engine boxed proxy.flags)
    | .reference _ =>
      let target ← ofExcept (← observe (·.targetOf cell))
      holdCells target.cells
      reserve engine
      return .proxy (← findReference engine target proxy.view proxy.flags)
  | value => return value

end ScriptBridge.Bridge
