/-
This file holds the world in which engines run: the store, the engines, the
registered code, and what the surroundings hold on to. Besides what the cells
themselves keep alive, a cell lives as long as something here names it: a global,
a root, a register, a local, or the list of cells that are in use at the moment.
-/

import ScriptBridge.Binding.Scene
import ScriptBridge.Engine.Loader
import ScriptBridge.Engine.Modules
import ScriptBridge.Engine.Options
import ScriptBridge.Engine.ProxyCache
import ScriptBridge.Engine.Session
import ScriptBridge.Engine.Source
import ScriptBridge.Store.Basic

namespace ScriptBridge

/-! ### Engines -/

/-- An engine. -/
structure Engine where
  name : String
  options : Options := {}
  policy : Policy := {}
  session : Session := {}
  cache : ProxyCache := {}
  globals : Named Script.Value := []
  /-- The proxies whose members are found as globals, in the order they were added. -/
  globalMembers : List CellId := []
  modules : ModuleCache := {}
  /-- What the engine loads modules with, if it can. -/
  loader : Option Loader := none
  documents : Nat := 0
  /-- Is there still a handle of the engine? -/
  alive : Bool := true
  deriving Inhabited

namespace Engine

/-- An engine as it is created. -/
def new (name : String) (options : Options) (loader : Option Loader) : Engine :=
  { name, options, loader
    policy := ⟨options.defaultAccess, options.accessContext⟩
    session := Session.new options.maxDepth }

/-- The one form of a specifier that the host gives. -/
def normalize (engine : Engine) (specifier : String) : Except ScriptError String :=
  match engine.loader with
  | some loader => loader.normalize specifier none
  | none => .ok (Specifier.normalize specifier none)

/-- Has the engine been disposed, or lost its last handle? -/
def isDisposed (engine : Engine) : Bool := engine.cache.disposed

/-- The engine without proxies, globals and modules. -/
def emptied (engine : Engine) : Engine :=
  { engine with
    cache := engine.cache.dispose
    globals := []
    globalMembers := []
    modules := engine.modules.dispose }

/-- The engine after it is disposed. Only the first time has an effect: what a disposed engine is
given later stays with it. -/
def dispose (engine : Engine) : Engine := if engine.isDisposed then engine else engine.emptied

/-- The engine after its last handle is dropped: nothing stays with it. -/
def close (engine : Engine) : Engine := { engine.emptied with alive := false }

/-- The error of using a disposed engine. -/
def disposedError (engine : Engine) : ScriptError :=
  .disposed s!"engine '{engine.name}' has been disposed"

/-- The cells an engine keeps alive. -/
def cells (engine : Engine) : List CellId :=
  engine.globals.flatMap (fun entry => entry.2.cells) ++ engine.globalMembers ++
    engine.modules.records.map (·.2.cell) ++ engine.cache.rootCells

end Engine

/-! ### The world -/

/-- Something that was logged while host code ran. -/
inductive LogEntry (View : Type)
  | call (label : String) (arguments : List View) (value : Option View)
  | note (value : View)
  | host (value : View)

/-- A value as it is shown: cut off below a depth, identities by cell. -/
inductive Shown
  /-- A scalar of the host side, or another value without parts. -/
  | host (value : Host.Value)
  | enumeration (type : String) (raw : Int)
  | struct (type : String) (fields : List Shown)
  | object (type : String) (cell : CellId)
  | array (element : String) (items : List Shown) (cell : CellId)
  | buffer (bytes : Bytes) (cell : CellId)
  | view (kind : String) (offset length : Nat) (cell : CellId)
  | delegate (type : String) (cell : CellId)
  | type (display : String)
  | box (type : String) (value : Shown) (cell : CellId)
  | carried (value : Shown)
  /-- A primitive of the script side. -/
  | script (value : Script.Value)
  | scriptArray (items : List Shown)
  | scriptObject (names : List String) (values : List Shown)
  | function (name : String)
  | scriptBuffer (bytes : Bytes) (cell : CellId)
  | scriptView (kind : String) (offset length : Nat) (cell : CellId)
  | member (kind name : String)
  | wrappedNull (type : String)
  | proxy (value : Shown) (view : Option String) (flags : UInt8)
  /-- A proxy whose target cannot be reached. -/
  | unreachable (error : String)
  /-- What lies below the depth shown. -/
  | cut
  deriving Inhabited

/-- The numbers of living proxies, functions and modules. -/
structure HeapCounters where
  proxies : Nat := 0
  functions : Nat := 0
  modules : Nat := 0
  deriving DecidableEq, Repr, Inhabited

namespace HeapCounters

/-- The numbers once a cell has been created. -/
def created (heap : HeapCounters) : Cell → HeapCounters
  | .proxy _ => { heap with proxies := heap.proxies + 1 }
  | .function _ => { heap with functions := heap.functions + 1 }
  | .module => { heap with modules := heap.modules + 1 }
  | _ => heap

/-- The numbers once a cell has died. -/
def died (heap : HeapCounters) : Cell → HeapCounters
  | .proxy _ => { heap with proxies := heap.proxies - 1 }
  | .function _ => { heap with functions := heap.functions - 1 }
  | .module => { heap with modules := heap.modules - 1 }
  | _ => heap

/-- What counts against the limit. -/
def used (heap : HeapCounters) : Nat := heap.proxies + heap.functions + heap.modules

end HeapCounters

/-- The world in which engines run. -/
structure World where
  store : Store := {}
  engines : Array Engine := #[]
  /-- The registered code by source text. -/
  scripts : Named Script.Code := []
  /-- The collections that engines have asked of the script side. -/
  collections : Nat := 0
  /-- The most proxies, functions and modules at one time. -/
  heapLimit : Option Nat := none
  /-- Host values held under a label. -/
  objects : Named Host.Value := []
  /-- Script values held from one step to the next. -/
  registers : Named Script.Value := []
  /-- The locals of the script code that runs, innermost first. -/
  locals : List (Named Script.Value) := []
  /-- The cells in use at the moment, latest first. -/
  held : List CellId := []
  log : Array (LogEntry Shown) := #[]
  heap : HeapCounters := {}
  /-- How members were looked up and used so far, latest first. -/
  history : List Binding.MemberEvent := []
  deriving Inhabited

namespace World

/-- The engine of an identity. -/
def engine (world : World) (engine : EngineId) : Engine := world.engines[engine]?.getD default

/-- The world with an engine changed. -/
def modifyEngine (world : World) (engine : EngineId) (change : Engine → Engine) : World :=
  { world with engines := world.engines.modify engine change }

/-- The first living engine of a name. -/
def engineNamed? (world : World) (name : String) : Option EngineId :=
  world.engines.findIdx? fun engine => engine.name == name && engine.alive

/-! ### Lives -/

/-- The world with cells noted as in use; one that is noted already is not noted again. -/
def holding (world : World) (cells : List CellId) : World :=
  { world with held := cells.foldr List.insert world.held }

/-- The cells that something outside the cells names. -/
def anchors (world : World) : List CellId :=
  world.held ++
    world.locals.flatMap (fun locals => locals.flatMap fun entry => entry.2.cells) ++
    world.registers.flatMap (fun entry => entry.2.cells) ++
    world.objects.flatMap (fun entry => entry.2.cells) ++
    world.engines.toList.flatMap Engine.cells ++
    world.store.types.types.toList.flatMap Host.HostType.defaultCells

/-- The number of namings of each cell, by the anchors and by living cells. -/
def namings (world : World) : Array Nat :=
  let count (counts : Array Nat) (cell : CellId) : Array Nat := counts.modify cell (· + 1)
  let fromAnchors := world.anchors.foldl count (Array.replicate world.store.cells.size 0)
  world.store.cells.foldl (fun counts cell =>
    match cell with
    | some contents => contents.cells.foldl count counts
    | none => counts) fromAnchors

/-- The world with one more cell, and its identity. -/
def create (world : World) (contents : Cell) : World × CellId :=
  let (store, created) := world.store.create contents
  ({ world with store, heap := world.heap.created contents }, created)

/-- The world with the ticket of a proxy that died left with the proxy's engine. -/
def leaveTicket (world : World) (cell : CellId) : Cell → World
  | .proxy proxy =>
    world.modifyEngine proxy.engine fun engine =>
      { engine with cache := engine.cache.release cell }
  | _ => world

/-- The world after a cell has died. A proxy leaves a ticket with its engine. -/
def bury (world : World) (cell : CellId) : World :=
  match world.store.get? cell with
  | none => world
  | some contents =>
    let buried : World :=
      { world with store := world.store.remove cell, heap := world.heap.died contents }
    buried.leaveTicket cell contents

/-- The counts and the dying cells once namings of cells are gone. A living cell that loses its
last naming is dying. -/
def unname (store : Store) : List CellId → Array Nat × List CellId → Array Nat × List CellId
  | [], state => state
  | cell :: rest, (counts, dying) =>
    let left := counts[cell]?.getD 0 - 1
    unname store rest (counts.setIfInBounds cell left,
      if left == 0 && store.isLive cell then cell :: dying else dying)

/-- The world after the cells that nothing names have died, and those that only they named, and so
on. Cells that name each other in a circle live on. Every step buries one cell. -/
def reapFrom : Nat → List CellId → Array Nat → World → World
  | 0, _, _, world => world
  | _, [], _, world => world
  | steps + 1, cell :: rest, counts, world =>
    let named := ((world.store.get? cell).map Cell.cells).getD []
    let buried := world.bury cell
    let (counts, dying) := unname buried.store named (counts, rest)
    reapFrom steps dying counts buried

/-- The world after every cell without a name has died. -/
def reap (world : World) : World :=
  let counts := world.namings
  let dying := (List.range world.store.cells.size).filter fun cell =>
    counts[cell]?.getD 0 == 0 && world.store.isLive cell
  reapFrom world.store.cells.size dying counts world

/-! ### The heap -/

/-- The engines with a handle. -/
def liveEngines (world : World) : Nat := world.engines.countP (·.alive)

/-- Are there more proxies, functions and modules than the limit allows? -/
def isOverLimit (world : World) : Bool :=
  match world.heapLimit with
  | some limit => limit < world.heap.used
  | none => false

/-! ### Proxies -/

/-- The host value behind a proxy, while its engine is not disposed and the target lives. -/
def targetOf (world : World) (cell : CellId) : Except ScriptError Host.Value :=
  let proxy := world.store.proxy cell
  if (world.engine proxy.engine).isDisposed then
    .error (.disposed s!"proxy {cell} belongs to a disposed engine")
  else match proxy.target with
    | .reference value =>
      match value.identity? with
      | some target =>
        if world.store.isLive target then .ok value
        else .error (.disposed s!"target of proxy {cell} was released")
      | none => .ok value
    | .boxed value => .ok value
    | .type type => .ok (.type type)

/-- A script value in the words of messages. -/
def describe (world : World) : Script.Value → String
  | .undefined => "undefined"
  | .null => "null"
  | .bool value => s!"boolean {value}"
  | .int value => s!"number {value.toInt}"
  | .double value => "number " ++ value.toText
  | .string value => s!"string '{value}'"
  | .date _ => "date"
  | .array _ => "array"
  | .object _ => "object"
  | .function cell => "function " ++ (world.store.function cell).name
  | .buffer _ => "ArrayBuffer"
  | .view view => view.window.kind.name
  | .proxy cell =>
    match world.targetOf cell with
    | .ok target => "host " ++ world.store.typeText target
    | .error _ => "disposed host object"
  | .member cell => "host member " ++ (world.store.member cell).name
  | .wrappedNull type => "null " ++ world.store.types.display type

/-- Strict equality on the script side. Numbers compare as binary numbers; values boxed in proxies
compare by value; a wrapped null equals null. -/
def strictEquals (world : World) (left right : Script.Value) : Bool :=
  match left, right with
  | .undefined, .undefined => true
  | .null, .null | .null, .wrappedNull _ | .wrappedNull _, .null
  | .wrappedNull _, .wrappedNull _ => true
  | .bool left, .bool right => left == right
  | .string left, .string right => left == right
  | .date left, .date right => left.equals right
  | .array left, .array right | .object left, .object right | .function left, .function right
  | .buffer left, .buffer right | .member left, .member right => left == right
  | .view left, .view right => left == right
  | .proxy left, .proxy right =>
    left == right ||
      match (world.store.proxy left).target, (world.store.proxy right).target with
      | .boxed left, .boxed right => left.equals right
      | _, _ => false
  | left, right =>
    match left.toDouble?, right.toDouble? with
    | some left, some right => left.equals right
    | _, _ => false

end World

end ScriptBridge
