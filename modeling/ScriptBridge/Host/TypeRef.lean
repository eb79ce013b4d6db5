/-
This file names the types a host signature can mention. Built-in types are
structural; a registered type is mentioned by its key, so two mentions are equal
exactly when they mean the same registration.
-/

import ScriptBridge.Number.Kind

namespace ScriptBridge.Host

/-- The key of a registered type: its place in the order of registration. -/
abbrev TypeKey := Nat

/-- A host type as a signature mentions it. -/
inductive TypeRef
  /-- Any value. -/
  | object
  /-- Any value, bound late; converts as `object` does and ranks after it. -/
  | dynamic
  /-- No value. -/
  | void
  | bool
  | char
  | string
  | dateTime
  | numeric (kind : Number.Kind)
  /-- The inner type or null. -/
  | nullable (inner : TypeRef)
  | array (element : TypeRef)
  | buffer
  /-- A window onto a buffer. -/
  | view
  /-- A registered type. -/
  | named (key : TypeKey)
  /-- A handle of a type. -/
  | handle
  /-- A box for an argument passed by reference. -/
  | box (inner : TypeRef)
  deriving DecidableEq, Repr, Inhabited

namespace TypeRef

/-- The type without one level of nullability. -/
def underlying : TypeRef → TypeRef
  | nullable inner => inner
  | other => other

/-- The numeric kind of a numeric or nullable numeric type. -/
def numericKind? (type : TypeRef) : Option Number.Kind :=
  match type.underlying with
  | numeric kind => some kind
  | _ => none

/-- The registered type behind a mention, nullable or not. -/
def key? (type : TypeRef) : Option TypeKey :=
  match type.underlying with
  | named key => some key
  | _ => none

end TypeRef

end ScriptBridge.Host
