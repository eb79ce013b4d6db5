/-
This file holds what can go wrong. Host code fails with host errors, script
operations with script errors, and each can carry the other: a script error that
crosses host code on its way out is nested in a host error, and a host error met
by script is the cause of an execution fault. The text of a fault is that of the
innermost failure of its chain.
-/

import ScriptBridge.Script.Value

namespace ScriptBridge

/-! ### Causes -/

/-- Why a script value does not convert to a host type. -/
inductive ConversionError
  /-- The value is of a kind that converts but outside the range of the target. -/
  | overflow (value target : String)
  /-- The value's kind does not convert to the target. -/
  | incompatible (actual target : String)
  deriving DecidableEq, Repr

mutual

/-- A failure of host code. -/
inductive HostError
  | exception (type message : String) (inner : Option HostError)
  | typeMismatch (expected actual : String)
  | argument (message : String)
  | range (message : String)
  | nullReference (message : String)
  | disposed (message : String)
  /-- A script error on its way through host code. -/
  | nested (error : ScriptError)
  deriving Repr

/-- A failure of a script operation. -/
inductive ScriptError
  | accessDenied (message : String)
  | missingMember (name : String)
  | ambiguousMember (name : String)
  | argumentConversion (error : ConversionError)
  | notSupported (message : String)
  /-- Host code called by script failed. -/
  | execution (cause : FaultCause)
  /-- Script code failed by itself, or threw a value. -/
  | fault (name message : String) (location : Option String) (thrown : Option Script.Value)
  | interrupted
  | disposed (message : String)
  | range (message : String)
  deriving Repr

/-- What made a host call fail: host code itself, or an engine it called. -/
inductive FaultCause
  | host (error : HostError)
  | nested (error : ScriptError)
  deriving Repr

end

instance : Inhabited HostError := ⟨.argument ""⟩
instance : Inhabited ScriptError := ⟨.interrupted⟩

/-! ### Texts -/

/-- The text of a failed conversion. -/
def ConversionError.message : ConversionError → String
  | overflow value target => s!"value {value} is outside the range of {target}"
  | incompatible actual target => s!"cannot convert {actual} to {target}"

mutual

/-- The text of a host error. -/
def HostError.message : HostError → String
  | .exception _ message _ => message
  | .typeMismatch expected actual => s!"Type mismatch: expected {expected}, got {actual}"
  | .argument message => "Argument error: " ++ message
  | .range message => "Range error: " ++ message
  | .nullReference message => "Null reference: " ++ message
  | .disposed message => "Object has been disposed: " ++ message
  | .nested error => error.message

/-- The text of a script error. -/
def ScriptError.message : ScriptError → String
  | .accessDenied message => "Access denied: " ++ message
  | .missingMember name => s!"Object has no suitable member named '{name}'"
  | .ambiguousMember name => s!"Ambiguous match for member '{name}'"
  | .argumentConversion error => "Invalid argument: " ++ error.message
  | .notSupported message => "Operation not supported: " ++ message
  | .execution cause => cause.message
  | .fault name message (some location) _ => s!"{name}: {message} ({location})"
  | .fault name message none _ => s!"{name}: {message}"
  | .interrupted => "Script execution interrupted"
  | .disposed message => "Object has been disposed: " ++ message
  | .range message => "Range error: " ++ message

/-- The text of the innermost failure behind a script error. -/
def ScriptError.innermost : ScriptError → String
  | .execution cause => cause.message
  | .fault _ message _ _ => message
  | .accessDenied message => "Access denied: " ++ message
  | .missingMember name => s!"Object has no suitable member named '{name}'"
  | .ambiguousMember name => s!"Ambiguous match for member '{name}'"
  | .argumentConversion error => "Invalid argument: " ++ error.message
  | .notSupported message => "Operation not supported: " ++ message
  | .interrupted => "Script execution interrupted"
  | .disposed message => "Object has been disposed: " ++ message
  | .range message => "Range error: " ++ message

/-- The text of the innermost failure behind a fault. -/
def FaultCause.message : FaultCause → String
  | .host (.nested error) => error.innermost
  | .host (.exception _ message _) => message
  | .host (.typeMismatch expected actual) => s!"Type mismatch: expected {expected}, got {actual}"
  | .host (.argument message) => "Argument error: " ++ message
  | .host (.range message) => "Range error: " ++ message
  | .host (.nullReference message) => "Null reference: " ++ message
  | .host (.disposed message) => "Object has been disposed: " ++ message
  | .nested error => error.innermost

end

/-! ### Kinds and chains -/

/-- The type name of a host error: an exception's own, or the one of its class. -/
def HostError.typeName : HostError → String
  | .exception type _ _ => type
  | .typeMismatch _ _ => "InvalidCastException"
  | .argument _ => "ArgumentException"
  | .range _ => "RangeError"
  | .nullReference _ => "NullReferenceException"
  | .disposed _ => "ObjectDisposedException"
  | .nested _ => "ScriptEngineException"

/-- The name handlers see for a script error. -/
def ScriptError.name : ScriptError → String
  | .accessDenied _ => "AccessDenied"
  | .missingMember _ => "MissingMember"
  | .ambiguousMember _ => "AmbiguousMember"
  | .argumentConversion (.overflow _ _) => "OverflowError"
  | .argumentConversion (.incompatible _ _) => "ArgumentConversion"
  | .notSupported _ => "NotSupported"
  | .execution _ => "ExecutionFault"
  | .fault name _ _ _ => name
  | .interrupted => "Interrupted"
  | .disposed _ => "ObjectDisposed"
  | .range _ => "RangeError"

/-- The error with another as its cause; only exceptions carry one. -/
def HostError.withInner (error inner : HostError) : HostError :=
  match error with
  | .exception type message _ => .exception type message (some inner)
  | other => other

/-- Is the error an interrupt? -/
def ScriptError.isInterrupt : ScriptError → Bool
  | .interrupted => true
  | _ => false

/-- Can a handler in script observe the error? -/
def ScriptError.isCatchable (error : ScriptError) : Bool := !error.isInterrupt

/-- A fault of script code without location or value. -/
def ScriptError.plain (name message : String) : ScriptError := .fault name message none none

/-- The number of crossings between engines behind a fault, its own included. -/
def FaultCause.depth : FaultCause → Nat
  | .host _ => 1
  | .nested (.execution cause) => 1 + cause.depth
  | .nested _ => 2

/-- The host error at the end of a chain of faults, if the chain ends in host code. -/
def FaultCause.hostError? : FaultCause → Option HostError
  | .host error => some error
  | .nested (.execution cause) => cause.hostError?
  | .nested _ => none

/-- A host error as script meets it. An interrupt unwinds only the engine it was asked of; one
that another engine raised is an ordinary fault here. -/
def HostError.toScriptError (error : HostError) (ownInterrupt : Bool) : ScriptError :=
  match error with
  | .nested inner =>
    if inner.isInterrupt && ownInterrupt then .interrupted else .execution (.nested inner)
  | other => .execution (.host other)

/-! ### Cells -/

mutual

/-- The cells a host error holds. -/
def HostError.cells : HostError → List CellId
  | .exception _ _ (some inner) => inner.cells
  | .nested error => error.cells
  | _ => []

/-- The cells a script error holds. -/
def ScriptError.cells : ScriptError → List CellId
  | .execution cause => cause.cells
  | .fault _ _ _ (some thrown) => thrown.cells
  | _ => []

/-- The cells a fault's cause holds. -/
def FaultCause.cells : FaultCause → List CellId
  | .host error => error.cells
  | .nested error => error.cells

end

end ScriptBridge
