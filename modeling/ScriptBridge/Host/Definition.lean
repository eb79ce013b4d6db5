/-
This file turns the definition of a type into a registered type. A definition
lists members as they are declared; registering it numbers the fields of a
struct, makes the default values of parameters once and for all, and notes for
every member which type declares it and with which default access. An explicit
implementation is declared by the interface whose member it implements.
-/

import ScriptBridge.Host.Run

namespace ScriptBridge.Host

open ScriptBridge.Run

/-! ### Definitions -/

/-- A parameter as it is declared. One that collects is declared with the type of the arguments it
collects. -/
structure ParameterDefinition where
  name : String
  type : TypeRef
  passing : Passing := .byValue
  default : Option Literal := none
  collects : Bool := false
  deriving Inhabited

/-- A member as it is declared. -/
structure MemberDefinition where
  kind : MemberKind
  name : String
  type : TypeRef
  parameters : List ParameterDefinition := []
  implementation : Implementation
  isStatic : Bool := false
  isPrivate : Bool := false
  access : Option Access := none
  rename : Option String := none
  deriving Inhabited

namespace MemberDefinition

/-- A field that can be read and written. -/
def field (name : String) (type : TypeRef) (get set : Body) : MemberDefinition :=
  { kind := .field, name, type, implementation := .accessor (some get) (some set) }

/-- A property, which can be written if it has a setter. -/
def property (name : String) (type : TypeRef) (get : Body) (set : Option Body) : MemberDefinition :=
  { kind := .property, name, type, implementation := .accessor (some get) set }

/-- A property with keys. -/
def indexer (parameters : List ParameterDefinition) (type : TypeRef) (get : Body)
    (set : Option Body) : MemberDefinition :=
  { kind := .indexer, name := Member.indexerName, type, parameters
    implementation := .accessor (some get) set }

/-- A method of instances. -/
def method (name : String) (parameters : List ParameterDefinition) (type : TypeRef)
    (body : Body) : MemberDefinition :=
  { kind := .method, name, type, parameters, implementation := .invoke body }

/-- A method of the type itself. -/
def staticMethod (name : String) (parameters : List ParameterDefinition) (type : TypeRef)
    (body : Body) : MemberDefinition :=
  { method name parameters type body with isStatic := true }

/-- A constructor: its body returns the new instance. -/
def constructor (parameters : List ParameterDefinition) (body : Body) : MemberDefinition :=
  { kind := .constructor, name := Member.constructorName, type := .object, parameters
    implementation := .invoke body, isStatic := true }

/-- An event whose handlers are delegates of a type. -/
def event (name : String) (type : TypeRef) : MemberDefinition :=
  { kind := .event, name, type, implementation := .event }

/-- A field of a struct. -/
def structField (name : String) (type : TypeRef) : MemberDefinition :=
  { kind := .field, name, type, implementation := .structField 0 }

/-- A method of the type itself that the engine carries out. -/
def intrinsic (name : String) (parameters : List ParameterDefinition) (type : TypeRef)
    (number : Nat) : MemberDefinition :=
  { kind := .method, name, type, parameters, implementation := .intrinsic number, isStatic := true }

/-- A method of an interface. -/
def abstractMethod (name : String) (parameters : List ParameterDefinition) (type : TypeRef) :
    MemberDefinition :=
  { kind := .method, name, type, parameters, implementation := .abstract }

/-- A property of an interface. -/
def abstractProperty (name : String) (type : TypeRef) : MemberDefinition :=
  { kind := .property, name, type, implementation := .abstract }

end MemberDefinition

/-- A type other than a delegate type as it is declared. -/
structure Declaration where
  name : String
  kind : TypeKind
  base : Option TypeKey := none
  interfaces : List TypeKey := []
  defaultAccess : Option Access := none
  defaultMember : Option String := none
  nested : List TypeKey := []
  constants : List (String × Int) := []
  members : List MemberDefinition := []
  /-- The members that implement a member of an interface for that interface only. -/
  explicit : List (TypeKey × MemberDefinition) := []
  deriving Inhabited

/-- The definition of a type. -/
inductive TypeDefinition
  | delegate (name : String) (parameters : List ParameterDefinition) (result : TypeRef)
  | declared (declaration : Declaration)
  deriving Inhabited

/-! ### Registration -/

/-- The parameter that a definition declares, with its default made. -/
def ParameterDefinition.make {Failure : Type} (definition : ParameterDefinition) :
    Run Failure Parameter := do
  let default ← match definition.default with
    | some literal => some <$> literal.evaluate
    | none => pure none
  return { name := definition.name, passing := definition.passing, default
           type := if definition.collects then .array definition.type else definition.type
           collects := definition.collects }

/-- The parameters that definitions declare. -/
def makeParameters {Failure : Type} :
    List ParameterDefinition → Run Failure (List Parameter)
  | [] => return []
  | definition :: rest => do
    let parameter ← definition.make
    return parameter :: (← makeParameters rest)

/-- The member that a definition declares for a type. -/
def MemberDefinition.make {Failure : Type} (definition : MemberDefinition) (declaring : TypeKey)
    (declaringAccess : Option Access) : Run Failure Member := do
  return { declaring, declaringAccess
           name := definition.name, kind := definition.kind
           isStatic := definition.isStatic, isPrivate := definition.isPrivate
           parameters := ← makeParameters definition.parameters
           type := definition.type, access := definition.access, rename := definition.rename
           implementation := definition.implementation }

/-- The members that definitions declare, the fields of a struct numbered from a slot on. -/
def makeMembers {Failure : Type} (declaring : TypeKey) (declaringAccess : Option Access) :
    Nat → List MemberDefinition → Run Failure (List Member)
  | _, [] => return []
  | slot, definition :: rest => do
    let member ← definition.make declaring declaringAccess
    match member.implementation with
    | .structField _ =>
      let numbered := { member with implementation := .structField slot }
      return numbered :: (← makeMembers declaring declaringAccess (slot + 1) rest)
    | _ => return member :: (← makeMembers declaring declaringAccess slot rest)

/-- The explicit implementations that definitions declare. -/
def makeExplicit {Failure : Type} :
    List (TypeKey × MemberDefinition) → Run Failure (List Member)
  | [] => return []
  | (interface, definition) :: rest => do
    let member ← definition.make interface ((← types).type interface).defaultAccess
    return member :: (← makeExplicit rest)

/-- The type that a definition declares, to be registered under a key. -/
def TypeDefinition.make {Failure : Type} (key : TypeKey) : TypeDefinition → Run Failure HostType
  | .delegate name parameters result => do
    return { name, kind := .delegate ⟨← makeParameters parameters, result⟩ }
  | .declared declaration => do
    let own ← makeMembers key declaration.defaultAccess 0 declaration.members
    let explicit ← makeExplicit declaration.explicit
    return { name := declaration.name, kind := declaration.kind, base := declaration.base
             interfaces := declaration.interfaces, members := own ++ explicit
             defaultAccess := declaration.defaultAccess
             defaultMember := declaration.defaultMember
             nested := declaration.nested, constants := declaration.constants }

/-- Registers the type that a definition declares. -/
def TypeDefinition.register {Failure : Type} (definition : TypeDefinition) :
    Run Failure TypeKey := do
  let type ← definition.make (← types).size
  let (table, key) := (← types).register type
  modifyStore fun store => { store with types := table }
  return key

/-- Registers types in order. -/
def registerAll {Failure : Type} : List TypeDefinition → Run Failure Unit
  | [] => return ()
  | definition :: rest => do
    discard definition.register
    registerAll rest

end ScriptBridge.Host
