/-
This file holds the record an engine keeps of its proxies. Proxies of values
held by reference are found again by target, view and the flags that matter, and
proxies of types by type and flags, as long as the proxy found is alive; the
record itself keeps no proxy alive. For every proxy of a reference the engine
holds a root, the target itself. A proxy that dies leaves a ticket, and the root
goes when the ticket is drained.
-/

import ScriptBridge.Engine.ItemFlags
import ScriptBridge.Host.Value

namespace ScriptBridge

/-- What tells the proxies of references apart: target, view and flags. -/
structure ReferenceKey where
  target : CellId
  view : Option Host.TypeKey
  flags : ItemFlags
  deriving DecidableEq, Repr

/-- What tells the proxies of types apart. -/
structure HandleKey where
  type : Host.TypeRef
  flags : ItemFlags
  deriving DecidableEq, Repr

/-- The record of an engine's proxies. -/
structure ProxyCache where
  disposed : Bool := false
  references : List (ReferenceKey × CellId) := []
  handles : List (HandleKey × CellId) := []
  /-- The target of each proxy of a reference, by proxy. -/
  roots : List (CellId × Host.Value) := []
  /-- The dead proxies whose tickets wait, oldest first. -/
  tickets : List CellId := []
  deriving Repr, Inhabited

namespace ProxyCache

/-- The entry of a key with the proxy put in place of any older one. -/
def put {Key : Type} [BEq Key] (entries : List (Key × CellId)) (key : Key) (proxy : CellId) :
    List (Key × CellId) :=
  entries.filter (fun entry => !(entry.1 == key)) ++ [(key, proxy)]

/-- The live proxy of a key. -/
def find? {Key : Type} [BEq Key] (entries : List (Key × CellId)) (isLive : CellId → Bool)
    (key : Key) : Option CellId :=
  ((entries.find? fun entry => entry.1 == key).map (·.2)).filter isLive

/-- The record with a new proxy of a reference and its root. -/
def addReference (cache : ProxyCache) (key : ReferenceKey) (proxy : CellId) (root : Host.Value) :
    ProxyCache :=
  { cache with
    references := put cache.references key proxy
    roots := cache.roots ++ [(proxy, root)] }

/-- The record with a new proxy of a type. -/
def addHandle (cache : ProxyCache) (key : HandleKey) (proxy : CellId) : ProxyCache :=
  { cache with handles := put cache.handles key proxy }

/-- The record with the ticket of a proxy that died. -/
def release (cache : ProxyCache) (proxy : CellId) : ProxyCache :=
  { cache with tickets := cache.tickets ++ [proxy] }

/-- The record with all tickets drained and the roots they name gone, and the number of those
roots. -/
def drain (cache : ProxyCache) : ProxyCache × Nat :=
  let kept := cache.roots.filter fun root => !cache.tickets.contains root.1
  ({ cache with roots := kept, tickets := [] }, cache.roots.length - kept.length)

/-- The record without entries of dead proxies, and the number of those entries. -/
def prune (cache : ProxyCache) (isLive : CellId → Bool) : ProxyCache × Nat :=
  let references := cache.references.filter fun entry => isLive entry.2
  let handles := cache.handles.filter fun entry => isLive entry.2
  ({ cache with references := references, handles := handles },
    cache.references.length + cache.handles.length - (references.length + handles.length))

/-- The number of entries of live proxies. -/
def liveCount (cache : ProxyCache) (isLive : CellId → Bool) : Nat :=
  cache.references.countP (fun entry => isLive entry.2) +
    cache.handles.countP fun entry => isLive entry.2

/-- The record of a disposed engine: nothing is kept and every proxy is invalid. -/
def dispose (_cache : ProxyCache) : ProxyCache := { disposed := true }

/-- The cells that the roots hold. -/
def rootCells (cache : ProxyCache) : List CellId := cache.roots.flatMap fun root => root.2.cells

end ProxyCache

end ScriptBridge
