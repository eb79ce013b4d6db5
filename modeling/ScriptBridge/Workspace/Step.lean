/-
This file says what can be done in a workspace, one step at a time, and what a
step answers. A step works on one engine; a script value that it answers with may
be kept in a register for later steps.
-/

import ScriptBridge.Bridge.Frame
import ScriptBridge.Script.Code
import ScriptBridge.Workspace.Report

namespace ScriptBridge.Workspace

/-! ### Steps -/

/-- What a step does. -/
inductive Action
  | script (body : Script.Code)
  | evaluateScript (source : String)
  | toScript (value : Host.Literal) (type : Host.TypeRef)
  | scriptGlobal (name : String)
  /-- Converts what a script answers to a type. -/
  | toHost (body : Script.Code) (type : Host.TypeRef)
  | evaluate (source : String)
  | evaluateModule (specifier source : String)
  | evaluateDocument (document : Script.Document) (source : String)
  | importModule (specifier : String)
  | invoke (name : String) (arguments : List Host.Literal)
  | global (name : String)
  | execute (source : String)
  | addObject (name : String) (flags : ItemFlags) (value : Host.Literal)
  | addType (name : String) (flags : ItemFlags) (type : Host.TypeRef)
  | addTypes (types : List Host.TypeRef)
  | addFunctions (name : String)
  | setGlobal (name register : String)
  | setDefaultAccess (access : Access)
  | setAccessContext (type : Option Host.TypeKey)
  | state
  | interrupt
  | collect
  /-- Collects on every engine. -/
  | collectAll
  | counts
  | heap
  | isEvaluated (specifier : String)
  | isDisposed
  | dispose
  | options
  | object (label : String)
  | drop (register : String)
  | dropEngine (name : String)
  | dropObject (label : String)
  | createEngine (name : String) (options : Options)
  | engines
  deriving Inhabited

/-- A step: what is done, on which engine, and the register that keeps what it answers with. -/
structure Step where
  engine : String
  action : Action
  keep : Option String := none
  deriving Inhabited

/-! ### Answers -/

/-- What an engine holds. -/
structure Counts where
  cached : Nat
  roots : Nat
  modules : Nat
  collections : Nat
  scriptHeap : Nat
  deriving DecidableEq, Repr

/-- What counts against the limit of the heap. -/
structure HeapInfo where
  proxies : Nat
  functions : Nat
  modules : Nat
  engines : Nat
  isOver : Bool
  deriving DecidableEq, Repr

/-- What a collection on every engine did. -/
structure Collected where
  swept : Nat := 0
  /-- The engines that owe a collection now. -/
  deferred : Nat := 0
  released : Nat := 0
  deriving DecidableEq, Repr

/-- What a step answers. -/
inductive Answer
  | nothing
  | value (value : Shown)
  | flag (value : Bool)
  | flags (values : List Bool)
  | states (current last : SessionState)
  | swept (result : Option Bridge.Swept)
  | collected (result : Collected)
  | counts (counts : Counts)
  | heap (info : HeapInfo)
  /-- Options, with the name of the access context. -/
  | options (options : Options) (context : Option String)
  | names (names : List String)
  deriving Inhabited

/-- What came of a step: its answer or error, and what was logged meanwhile. There is neither
answer nor error if the step ran out of depth. -/
structure Outcome where
  result : Option (Except Report Answer)
  log : List (LogEntry Shown)

end ScriptBridge.Workspace
