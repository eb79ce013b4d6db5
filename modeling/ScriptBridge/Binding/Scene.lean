/-
This file holds what an operation on a proxy works with: what the proxy stands
for, the members that it offers, and which of them script sees under the policy
in force. The history of a world tells the scenes in which members were looked
up, the uses that were then made of members, each with the scene that it came out
of, what dynamic capabilities were asked, and the policies that engines were given
in between.
-/

import ScriptBridge.Binding.Policy
import ScriptBridge.Binding.Slot
import ScriptBridge.Store.Cell

namespace ScriptBridge.Binding

open Host

/-! ### Subjects -/

/-- What an operation on a proxy works on. -/
inductive Subject
  /-- The static side of a type. -/
  | statics (type : TypeRef)
  /-- A value of a registered type. -/
  | member (value : Host.Value) (type : TypeKey)
  /-- Another value. -/
  | plain (value : Host.Value)
  deriving Inhabited

namespace Subject

/-- The instance that members run on; static members have none. -/
def self : Subject → Host.Value
  | statics _ => .null
  | member value _ => value
  | plain value => value

/-- The slots of a subject, seen through a view. -/
def slots (subject : Subject) (table : TypeTable) (view : Option TypeKey) : List Slot :=
  match subject with
  | statics (.named key) => staticSlots table key
  | member _ key => instanceSlots table key view
  | _ => []

/-- The constructors that a subject offers. -/
def constructors (subject : Subject) (table : TypeTable) : List Slot :=
  match subject with
  | statics (.named key) => constructorSlots table key
  | _ => []

end Subject

/-! ### Visibility -/

/-- What script sees: the policy of its engine and whether the item has private access. -/
structure Sight where
  policy : Policy
  table : TypeTable
  privateAccess : Bool
  deriving Inhabited

namespace Sight

/-- The access that script has to a slot. -/
def access (sight : Sight) (slot : Slot) : Access :=
  sight.policy.access sight.table slot.declaration sight.privateAccess

/-- Does script see the slot? -/
def sees (sight : Sight) (slot : Slot) : Bool := (sight.access slot).isVisible

/-- May script write the slot? -/
def mayWrite (sight : Sight) (slot : Slot) : Bool := (sight.access slot).isWritable

end Sight

/-! ### Lookup -/

/-- The slots of a name. -/
structure Lookup where
  /-- Those that script sees under the name. -/
  visible : List Slot
  /-- The number of those of the name, hidden ones included. -/
  declared : Nat
  deriving Inhabited

/-- The visible slots of a kind. -/
def Lookup.ofKind (lookup : Lookup) (kind : MemberKind) : List Slot :=
  lookup.visible.filter (·.isKind kind)

/-- What a proxy offers to an engine's script at one moment. -/
structure Scene where
  engine : EngineId
  proxy : CellId
  subject : Subject
  view : Option TypeKey
  sight : Sight
  deriving Inhabited

namespace Scene

/-- The slots that the proxy binds. -/
def slots (scene : Scene) : List Slot := scene.subject.slots scene.sight.table scene.view

/-- The constructors of the type that the proxy stands for. -/
def constructors (scene : Scene) : List Slot := scene.subject.constructors scene.sight.table

/-- The slots of a name. -/
def lookup (scene : Scene) (name : String) : Lookup where
  visible := scene.slots.filter fun slot =>
    scene.sight.sees slot && slot.declaration.scriptName == name
  declared := scene.slots.countP (·.isNamed name)

end Scene

/-! ### Uses -/

/-- What is done with a member: one of its bodies runs, or the engine carries it out itself. -/
inductive Action
  | read (body : Body)
  | write (body : Body)
  | call (body : Body)
  | attach
  | readField (place : Nat)
  | writeField (place : Nat)
  | intrinsic (number : Nat)

/-- A use of a member, with the scene that the member was looked up in. -/
structure MemberUse where
  scene : Scene
  slot : Slot
  action : Action

/-! ### Offers -/

/-- What is asked of a dynamic capability. -/
inductive Request
  | get (name : String)
  | set (name : String)
  | getIndex
  | setIndex
  | invoke (name : String)
  | call
  | delete (name : String)
  | names
  deriving DecidableEq, Repr

/-- An operation on an object that is offered to its dynamic capability, with the proxy that it goes
through. -/
structure Offer where
  proxy : CellId
  object : CellId
  request : Request
  deriving DecidableEq, Repr

/-! ### Events -/

/-- What a history tells: that members were looked up, that one was used, that a dynamic capability
was asked, and that an engine got another policy. -/
inductive MemberEvent
  | looked (scene : Scene)
  | used (use : MemberUse)
  | offered (offer : Offer)
  | governed (engine : EngineId) (policy : Policy)

end ScriptBridge.Binding
