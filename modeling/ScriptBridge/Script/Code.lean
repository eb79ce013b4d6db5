/-
This file holds the code that runs on the script side. Code is one expression;
its parts are evaluated from left to right, arguments before the operation they
belong to. Functions take no variables from around them: their bodies see their
arguments, their own locals and what is global.
-/

import ScriptBridge.Access
import ScriptBridge.Host.Code
import ScriptBridge.Script.Value

namespace ScriptBridge.Script

/-- An expression of script code. -/
inductive Code
  | undefined
  | null
  | bool (value : Bool)
  | int (value : Int64)
  | double (value : Number.Double)
  | string (value : String)
  | date (millis : Number.Double)
  | array (items : List Code)
  | object (names : List String) (values : List Code)
  | buffer (bytes : List UInt8)
  | view (kind : Buffer.ElementKind) (buffer : Code) (offset length : Nat)
  /-- A local or, failing that, a register of the run. -/
  | register (name : String)
  | argument (index : Nat)
  | setLocal (name : String) (value : Code)
  | dropLocal (name : String)
  | sequence (parts : List Code)
  | repeated (count : Nat) (body : Code)
  | global (name : String)
  | setGlobal (name : String) (value : Code)
  | get (target : Code) (name : String)
  | set (target : Code) (name : String) (value : Code)
  | call (callee : Code) (arguments : List Code)
  | invoke (target : Code) (name : String) (arguments : List Code)
  | setInvoke (target : Code) (keys : List Code) (value : Code)
  | setInvokeMember (target : Code) (name : String) (keys : List Code) (value : Code)
  | index (target : Code) (keys : List Code)
  | setIndex (target : Code) (keys : List Code) (value : Code)
  | construct (callee : Code) (arguments : List Code)
  | names (target : Code)
  | poll
  /-- The handler sees what it catches as a local. -/
  | attempt (body : Code) (caught : String) (handler : Code)
  | raise (value : Code)
  | function (name : String) (body : Code)
  | importModule (specifier : String)
  | document
  | engineName
  | equal (left right : Code)
  | text (value : Code)
  | number (value : Code)
  | typeName (value : Code)
  | truthy (value : Code)
  | describe (value : Code)
  /-- A host value marshaled as if declared with the type. -/
  | host (value : Host.Literal) (type : Host.TypeRef)
  | logHost (value : Code)
  | push (array value : Code)
  | has (object : Code) (name : String)
  | state (engine : String)
  | interrupt (engine : String)
  | collect (engine : String)
  | dispose (engine : String)
  | roots (engine : String)
  | defaultAccess (engine : String) (access : Access)

instance : Inhabited Code := ⟨.undefined⟩

end ScriptBridge.Script
