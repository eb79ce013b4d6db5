/-
This file holds the cells of the store: everything that has an identity. Host
objects carry state by name and lists of handlers by event; delegates run code
or a script function; proxies stand for host values on the script side. Every
cell tells which cells it keeps alive. A proxy does not keep a target held by
reference alive, the engine's root for it does.
-/

import ScriptBridge.Engine.ItemFlags
import ScriptBridge.Host.Member
import ScriptBridge.Script.Code

namespace ScriptBridge

/-- The place of an engine in the order of creation. -/
abbrev EngineId := Nat

/-! ### Named values -/

/-- Values by name, in the order in which names first came. -/
abbrev Named (Value : Type) := List (String × Value)

namespace Named

variable {Value : Type}

/-- The value of a name. -/
def get? (entries : Named Value) (name : String) : Option Value :=
  (entries.find? fun entry => entry.1 == name).map (·.2)

/-- Is there a value of the name? -/
def has (entries : Named Value) (name : String) : Bool := (entries.get? name).isSome

/-- The entries with a name's value set. -/
def put (entries : Named Value) (name : String) (value : Value) : Named Value :=
  if entries.has name then
    entries.map fun entry => if entry.1 == name then (name, value) else entry
  else entries ++ [(name, value)]

/-- The entries without a name. -/
def erase (entries : Named Value) (name : String) : Named Value :=
  entries.filter fun entry => entry.1 != name

/-- The names, sorted. -/
def sortedNames (entries : Named Value) : List String :=
  (entries.map (·.1)).mergeSort (fun left right => decide (left ≤ right))

end Named

/-! ### Host cells -/

/-- The dynamic capability of an object. -/
structure Dynamic where
  values : Named Host.Value
  handled : List Host.Capability
  failing : List String
  methods : Named Host.Code
  call : Option Host.Code
  deriving Inhabited

/-- An object of a registered type. -/
structure HostObject where
  type : Host.TypeKey
  state : Named Host.Value := []
  /-- The handlers of each event, in the order they were added. -/
  handlers : Named (List CellId) := []
  dynamic : Option Dynamic := none
  deriving Inhabited

namespace HostObject

/-- The handlers of an event. -/
def handlersOf (object : HostObject) (event : String) : List CellId :=
  (object.handlers.get? event).getD []

/-- The object with a handler more on an event. -/
def attach (object : HostObject) (event : String) (handler : CellId) : HostObject :=
  { object with handlers := object.handlers.put event (object.handlersOf event ++ [handler]) }

/-- The object without the first registration of a handler on an event. -/
def detach (object : HostObject) (event : String) (handler : CellId) : HostObject :=
  { object with handlers := object.handlers.put event ((object.handlersOf event).erase handler) }

end HostObject

/-- The bond between an event of an object and a handler. -/
structure Connection where
  type : Host.TypeKey
  source : Host.Value
  handler : CellId
  event : String
  connected : Bool
  deriving Inhabited

/-- What a delegate calls. -/
inductive DelegateTarget
  | code (body : Host.Code)
  | function (cell : CellId)
  deriving Inhabited

/-! ### Script cells -/

/-- A function of an engine. Its calls run on that engine. -/
structure Function where
  name : String
  engine : EngineId
  document : Script.Document
  body : Script.Code
  deriving Inhabited

/-- What a proxy stands for. -/
inductive ProxyTarget
  /-- A value held by reference; the proxy does not keep it alive. -/
  | reference (value : Host.Value)
  /-- A value held by the proxy itself. -/
  | boxed (value : Host.Value)
  | type (type : Host.TypeRef)
  deriving Repr, Inhabited

/-- A proxy: what it stands for, the interface it is seen through and its flags. -/
structure Proxy where
  engine : EngineId
  target : ProxyTarget
  view : Option Host.TypeKey
  flags : ItemFlags
  deriving Inhabited

/-- What a bound member stands for. -/
inductive BoundKind
  | method | indexer | indexerGet | indexerSet | event | eventConnect
  deriving DecidableEq, Repr, Inhabited

/-- The name of the kind. -/
def BoundKind.name : BoundKind → String
  | .method => "Method"
  | .indexer => "Indexer"
  | .indexerGet => "IndexerGet"
  | .indexerSet => "IndexerSet"
  | .event => "Event"
  | .eventConnect => "EventConnect"

/-- A member bound to a proxy. -/
structure BoundMember where
  proxy : CellId
  name : String
  kind : BoundKind
  deriving DecidableEq, Repr, Inhabited

/-- A compiled document: registered code, a literal, or a path of names from a global on. -/
inductive Compiled
  | code (body : Script.Code)
  | literal (value : Script.Value)
  | path (first : String) (rest : List String)
  deriving Inhabited

/-! ### Cells -/

/-- Something with an identity. -/
inductive Cell
  | object (object : HostObject)
  | connection (connection : Connection)
  | hostArray (element : Host.TypeRef) (items : Array Host.Value)
  | box (type : Host.TypeRef) (value : Host.Value)
  | buffer (bytes : Bytes)
  | delegate (type : Host.TypeKey) (target : DelegateTarget)
  | scriptArray (items : Array Script.Value)
  | scriptObject (properties : Named Script.Value)
  | function (function : Function)
  | proxy (proxy : Proxy)
  | member (member : BoundMember)
  /-- A script value behind an identity of its own, as host values carry it. -/
  | handle (value : Script.Value)
  /-- A recorded module. -/
  | module
  deriving Inhabited

namespace Cell

/-- The cells that a cell keeps alive. -/
def cells : Cell → List CellId
  | object contents =>
    contents.state.flatMap (fun entry => entry.2.cells) ++
      contents.handlers.flatMap (fun entry => entry.2) ++
      match contents.dynamic with
      | some dynamic => dynamic.values.flatMap fun entry => entry.2.cells
      | none => []
  | connection bond => bond.handler :: bond.source.cells
  | hostArray _ items => items.toList.flatMap Host.Value.cells
  | box _ value => value.cells
  | delegate _ (.function target) => [target]
  | scriptArray items => items.toList.flatMap Script.Value.cells
  | scriptObject properties => properties.flatMap fun entry => entry.2.cells
  | proxy { target := .boxed value, .. } => value.cells
  | member bound => [bound.proxy]
  | handle value => value.cells
  | _ => []

/-- A script array with one more item; other cells stay as they are. -/
def append (item : Script.Value) : Cell → Cell
  | scriptArray items => scriptArray (items.push item)
  | other => other

end Cell

end ScriptBridge
