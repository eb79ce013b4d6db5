/-
This file lists the members that one subject sees. A slot pairs the declaration
that script reaches, which decides access and name, with the implementation that
runs. Without a view an instance offers the members of its type and its bases,
where a member hides those of a base with the same signature. Through an
interface it offers the interface's members, each carried out by an explicit
implementation, else by a public member of the same signature, else by the
interface itself. Through a base it offers the members of the base, carried out
by what overrides them.
-/

import ScriptBridge.Host.TypeTable

namespace ScriptBridge.Binding

open Host

/-- A member as a subject sees it. -/
structure Slot where
  /-- The declaration that script reaches. -/
  declaration : Member
  /-- The member that runs. -/
  implementation : Member
  deriving Inhabited

namespace Slot

/-- A member that runs as it is declared. -/
def plain (member : Member) : Slot := ⟨member, member⟩

/-- Does script or the host know the slot by the name? -/
def isNamed (slot : Slot) (name : String) : Bool :=
  slot.declaration.scriptName == name || slot.declaration.name == name

/-- Is the slot of the kind? -/
def isKind (slot : Slot) (kind : MemberKind) : Bool := slot.declaration.kind == kind

/-- Can the slot be read without arguments by calling it? -/
def isGetter (slot : Slot) : Bool :=
  slot.implementation.parameters.isEmpty && slot.implementation.type != .void

end Slot

/-- Adds a member unless one with the same signature is there. -/
def addSlot (slots : List Slot) (member : Member) : List Slot :=
  if slots.any fun slot => slot.implementation.sameSignature member then slots
  else slots ++ [.plain member]

/-- The selected members that types declare for themselves, nearest type first; a member hides
later ones with the same signature. -/
def collectSlots (table : TypeTable) (chain : List TypeKey) (selects : Member → Bool) :
    List Slot :=
  let members := chain.flatMap fun key =>
    (table.type key).members.filter fun member => member.declaring == key && selects member
  members.foldl addSlot []

/-- The static members of a type and its bases. -/
def staticSlots (table : TypeTable) (key : TypeKey) : List Slot :=
  collectSlots table (table.chain key) fun member =>
    member.isStatic && member.kind != .constructor

/-- The constructors a type declares. -/
def constructorSlots (table : TypeTable) (key : TypeKey) : List Slot :=
  ((table.type key).members.filter fun member =>
    member.kind == .constructor && member.declaring == key).map .plain

/-- What carries out a member of an interface for an instance: an explicit implementation, a
public member of the instance, or the interface's own body. -/
def implementation? (table : TypeTable) (chain : List TypeKey) (instanceSlots : List Slot)
    (interface : TypeKey) (declaration : Member) : Option Member :=
  let explicit := (chain.flatMap fun key => (table.type key).members).find? fun member =>
    member.declaring == interface && member.sameSignature declaration
  let implicit := (instanceSlots.find? fun slot =>
    !slot.implementation.isPrivate && slot.implementation.sameSignature declaration).map
      (·.implementation)
  let own := match declaration.implementation with
    | .abstract => none
    | _ => some declaration
  (explicit.or implicit).or own

/-- The members of an interface and those it extends, for an instance. -/
def interfaceSlots (table : TypeTable) (chain : List TypeKey) (instanceSlots : List Slot)
    (view : TypeKey) : List Slot :=
  (table.allInterfaces view).flatMap fun interface =>
    (table.type interface).members.filterMap fun declaration =>
      if declaration.declaring == interface && declaration.isInstanceMember then
        (implementation? table chain instanceSlots interface declaration).map (⟨declaration, ·⟩)
      else none

/-- The members of a base, carried out by what overrides them nearer the instance. -/
def baseSlots (table : TypeTable) (derived bases : List TypeKey) : List Slot :=
  let overrides := collectSlots table derived Member.isInstanceMember
  (collectSlots table bases Member.isInstanceMember).map fun slot =>
    match overrides.find? fun other =>
        other.implementation.sameSignature slot.declaration with
    | some other => { slot with implementation := other.implementation }
    | none => slot

/-- The members of an instance of a type, seen through a view. -/
def instanceSlots (table : TypeTable) (key : TypeKey) (view : Option TypeKey) : List Slot :=
  let chain := table.chain key
  let own := collectSlots table chain Member.isInstanceMember
  match view with
  | none => own
  | some view =>
    if (table.type view).isInterface then interfaceSlots table chain own view
    else
      let place := chain.findIdx (· == view)
      if place < chain.length then baseSlots table (chain.take place) (chain.drop place) else own

end ScriptBridge.Binding
