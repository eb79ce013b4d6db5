/-
This file reports errors. A report names the error, words it, and adds what else
is known: the text of the innermost failure where it is another one, how many
crossings lie behind a fault and what caused it, where script failed and what it
threw, and the error that led to an exception.
-/

import ScriptBridge.Store.Shown

namespace ScriptBridge

mutual

/-- An error as it is reported. -/
inductive Report
  | mk (name message : String) (details : List Detail)

/-- Something else that is known about an error. -/
inductive Detail
  | innermost (message : String)
  | depth (count : Nat)
  | hostCause (report : Report)
  | nestedCause (report : Report)
  /-- The type of the host error that a chain of faults ends in. -/
  | hostError (type : String)
  | location (place : String)
  | thrown (value : Shown)
  | inner (report : Report)

end

instance : Inhabited Report := ⟨.mk "" "" []⟩

/-- The text of the innermost failure, where it is not that of the error. -/
def innermostDetail (message innermost : String) : List Detail :=
  if innermost == message then [] else [.innermost innermost]

/-- The type of the host error that a fault ends in. -/
def hostErrorDetail (cause : FaultCause) : List Detail :=
  match cause.hostError? with
  | some error => [.hostError error.typeName]
  | none => []

/-- Where script failed. -/
def locationDetail : Option String → List Detail
  | some place => [.location place]
  | none => []

/-- What script threw. -/
def thrownDetail (world : World) : Option Script.Value → List Detail
  | some value => [.thrown (world.shownScript value)]
  | none => []

mutual

/-- The report of a host error. -/
def HostError.report (world : World) : HostError → Report
  | .exception type message (some inner) => .mk type message [.inner (inner.report world)]
  | .exception type message none => .mk type message []
  | .nested error => .mk "ScriptEngineException" error.message []
  | other => .mk other.typeName other.message []

/-- The report of a script error. -/
def ScriptError.report (world : World) : ScriptError → Report
  | .execution cause =>
    .mk "ExecutionFault" cause.message
      ([.depth cause.depth, cause.detail world] ++ hostErrorDetail cause)
  | error@(.fault name message location thrown) =>
    .mk name error.message
      (innermostDetail error.message message ++ locationDetail location ++
        thrownDetail world thrown)
  | other => .mk other.name other.message (innermostDetail other.message other.innermost)

/-- What caused a fault. -/
def FaultCause.detail (world : World) : FaultCause → Detail
  | .host error => .hostCause (error.report world)
  | .nested error => .nestedCause (error.report world)

end

end ScriptBridge
