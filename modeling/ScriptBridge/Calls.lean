/-
This file names what running code can start that is not a part of itself: calling
functions and values, marshaling what is nested in values, invoking delegates,
evaluating source texts and importing modules. Each is given as a run, so that
the operations built on them can be stated for whatever is started; running out
of depth is where the chain of calls ends.
-/

import ScriptBridge.Run

namespace ScriptBridge

/-- What code can start, one level deeper than itself. -/
structure Calls where
  /-- Calls a script function from an engine. -/
  callFunction : EngineId → CellId → List Script.Value → ScriptRun Script.Value
  /-- Calls any script value. -/
  callValue : EngineId → Script.Value → List Script.Value → ScriptRun Script.Value
  /-- Assigns through a call on any script value: keys, then the value. -/
  assignThrough : EngineId → Script.Value → List Script.Value → Script.Value → ScriptRun Unit
  /-- Marshals a host value for script, given the type it was declared as. -/
  toScript : EngineId → Host.Value → Host.TypeRef → ScriptRun Script.Value
  /-- The text of a script value. -/
  toText : EngineId → Script.Value → ScriptRun String
  /-- Invokes a delegate; the arguments come back as the call left them. -/
  invokeDelegate : CellId → List Host.Value → HostRun (Host.Value × List Host.Value)
  /-- Evaluates a source text on an engine. -/
  evaluate : EngineId → String → ScriptRun Host.Value
  /-- Imports a module into an engine, from the document with the given specifier. -/
  importModule : EngineId → String → Option String → ScriptRun Script.Value

/-- The end of the depth: whatever is started does not run. -/
def Calls.exhausted : Calls where
  callFunction _ _ _ := Run.exhausted
  callValue _ _ _ := Run.exhausted
  assignThrough _ _ _ _ := Run.exhausted
  toScript _ _ _ := Run.exhausted
  toText _ _ := Run.exhausted
  invokeDelegate _ _ := Run.exhausted
  evaluate _ _ := Run.exhausted
  importModule _ _ _ := Run.exhausted

end ScriptBridge
