/-
This file decides how an engine's script sees a member. The annotation on the
member comes first, then the default of the type that declares it, then the
default of the engine; a private member is hidden unless the item was exposed
with private access or the engine's access context derives from the declaring
type. Nothing is remembered between decisions, so a change to the policy applies
to the next one.
-/

import ScriptBridge.Host.TypeTable

namespace ScriptBridge

open Host

/-- What decides how an engine's script sees members. -/
structure Policy where
  defaultAccess : Access := .full
  accessContext : Option TypeKey := none
  deriving DecidableEq, Repr, Inhabited

namespace Policy

/-- The access of a member, whether or not it is private. -/
def declaredAccess (policy : Policy) (member : Member) : Access :=
  match member.access, member.declaringAccess with
  | some access, _ => access
  | none, some access => access
  | none, none => policy.defaultAccess

/-- Does script see the member if it is private? -/
def seesPrivate (policy : Policy) (types : TypeTable) (member : Member)
    (privateAccess : Bool) : Bool :=
  privateAccess ||
    match policy.accessContext with
    | some context => (types.chain context).contains member.declaring
    | none => false

/-- The access that script has to a member. -/
def access (policy : Policy) (types : TypeTable) (member : Member) (privateAccess : Bool) :
    Access :=
  if member.isPrivate && !policy.seesPrivate types member privateAccess then .hidden
  else policy.declaredAccess member

end Policy

end ScriptBridge
