/-
This file keeps the registered types. A type mentions only types registered
before it, so following bases ends, and so does the search for interfaces, which
meets every type at most once. A value of one type can stand where another is
expected when the other is among its bases or, for an interface, among the
interfaces of its bases, at any depth.
-/

import ScriptBridge.Host.Member

namespace ScriptBridge.Host

/-! ### Types -/

/-- The kind of a registered type. -/
inductive TypeKind
  | reference
  | struct
  | interface
  | enumeration (underlying : Number.Kind) (flags : Bool)
  | delegate (signature : Signature)
  | static
  deriving Repr, Inhabited

/-- A registered type. -/
structure HostType where
  name : String
  kind : TypeKind
  base : Option TypeKey := none
  interfaces : List TypeKey := []
  members : List Member := []
  defaultAccess : Option Access := none
  defaultMember : Option String := none
  nested : List TypeKey := []
  constants : List (String × Int) := []
  deriving Inhabited

namespace HostType

/-- Is the type an interface? -/
def isInterface (type : HostType) : Bool :=
  match type.kind with
  | .interface => true
  | _ => false

/-- Is the type a struct? -/
def isStruct (type : HostType) : Bool :=
  match type.kind with
  | .struct => true
  | _ => false

/-- Is the type an enumeration? -/
def isEnumeration (type : HostType) : Bool :=
  match type.kind with
  | .enumeration _ _ => true
  | _ => false

/-- Is the type an enumeration whose values combine? -/
def isFlags (type : HostType) : Bool :=
  match type.kind with
  | .enumeration _ flags => flags
  | _ => false

/-- Are values of the type compared and boxed by value? -/
def isValueType (type : HostType) : Bool := type.isStruct || type.isEnumeration

/-- The signature of a delegate type. -/
def signature? (type : HostType) : Option Signature :=
  match type.kind with
  | .delegate signature => some signature
  | _ => none

/-- Is the type a delegate type? -/
def isDelegate (type : HostType) : Bool := type.signature?.isSome

/-- The integral kind under an enumeration. -/
def underlying? (type : HostType) : Option Number.Kind :=
  match type.kind with
  | .enumeration underlying _ => some underlying
  | _ => none

/-- The value of a named constant; the first of that name counts. -/
def constant? (type : HostType) (name : String) : Option Int :=
  (type.constants.find? fun constant => constant.1 == name).map (·.2)

/-- The name of a constant with the value; the first of that value counts. -/
def constantName? (type : HostType) (raw : Int) : Option String :=
  (type.constants.find? fun constant => constant.2 == raw).map (·.1)

/-- The fields of a struct, in the order of their slots. -/
def structFields (type : HostType) : List Member :=
  type.members.filter fun member =>
    match member.implementation with
    | .structField _ => true
    | _ => false

/-- The cells that the defaults of parameters hold. -/
def defaultCells (type : HostType) : List CellId :=
  let signature := match type.signature? with
    | some signature => signature.parameters
    | none => []
  (type.members.flatMap Member.parameters ++ signature).flatMap fun parameter =>
    match parameter.default with
    | some value => value.cells
    | none => []

end HostType

/-! ### The table -/

/-- The registered types by key. -/
structure TypeTable where
  types : Array HostType := #[]
  deriving Inhabited

namespace TypeTable

/-- The number of registered types. -/
def size (table : TypeTable) : Nat := table.types.size

/-- The type with a key. -/
def type (table : TypeTable) (key : TypeKey) : HostType := table.types[key]?.getD default

/-- The table with one more type, and the type's key. -/
def register (table : TypeTable) (type : HostType) : TypeTable × TypeKey :=
  (⟨table.types.push type⟩, table.types.size)

/-- The base of a type. A base is registered before the types that derive from it. -/
def base? (table : TypeTable) (key : TypeKey) : Option TypeKey :=
  (table.type key).base.filter (· < key)

theorem lt_of_base? {table : TypeTable} {key base : TypeKey} (h : table.base? key = some base) :
    base < key := by
  unfold base? at h
  rw [Option.filter_eq_some_iff] at h
  exact of_decide_eq_true h.2

/-- A type followed by its bases, nearest first. -/
def chain (table : TypeTable) (key : TypeKey) : List TypeKey :=
  match _found : table.base? key with
  | none => [key]
  | some base => key :: table.chain base
  termination_by key
  decreasing_by exact lt_of_base? _found

/-- The interfaces a type names itself. An interface is registered before the types that name
it. -/
def interfaces (table : TypeTable) (key : TypeKey) : List TypeKey :=
  (table.type key).interfaces.filter (· < key)

theorem lt_of_mem_interfaces {table : TypeTable} {key interface : TypeKey}
    (h : interface ∈ table.interfaces key) : interface < key := by
  unfold interfaces at h
  exact of_decide_eq_true (List.mem_filter.1 h).2

/-! ### Interfaces -/

/-- The interfaces found so far, extended by an interface and those it leads to. One found before
adds nothing; of those an interface names, the last is searched first. -/
def searchInterfaces (table : TypeTable) (found : List TypeKey) (interface : TypeKey) :
    List TypeKey :=
  if found.contains interface then found
  else
    (table.interfaces interface).attach.foldr
      (fun next found => table.searchInterfaces found next.1) (found ++ [interface])
  termination_by interface
  decreasing_by exact lt_of_mem_interfaces next.2

/-- Every interface that a type or one of its bases is or names, and those they lead to, each
once. -/
def allInterfaces (table : TypeTable) (key : TypeKey) : List TypeKey :=
  let named := (table.chain key).flatMap fun type =>
    (if (table.type type).isInterface then [type] else []) ++ table.interfaces type
  named.foldr (fun interface found => table.searchInterfaces found interface) []

/-! ### Relations and lookups -/

/-- Can a value of the first type stand where the second is expected? -/
def isAssignable (table : TypeTable) (actual expected : TypeKey) : Bool :=
  (table.chain actual).contains expected ||
    ((table.type expected).isInterface && (table.allInterfaces actual).contains expected)

/-- The member reached by calling an instance: the nearest one declared along the bases. -/
def defaultMember? (table : TypeTable) (key : TypeKey) : Option String :=
  (table.chain key).findSome? fun type => (table.type type).defaultMember

/-- The nested type with a name. -/
def findNested? (table : TypeTable) (key : TypeKey) (name : String) : Option TypeKey :=
  (table.type key).nested.find? fun nested => (table.type nested).name == name

/-! ### Mentions -/

/-- The text of a mention. -/
def display (table : TypeTable) : TypeRef → String
  | .object => "Object"
  | .dynamic => "dynamic"
  | .void => "Void"
  | .bool => "Boolean"
  | .char => "Char"
  | .string => "String"
  | .dateTime => "DateTime"
  | .numeric kind => kind.name
  | .nullable inner => "Nullable<" ++ table.display inner ++ ">"
  | .array element => table.display element ++ "[]"
  | .buffer => "ArrayBuffer"
  | .view => "ArrayBufferView"
  | .named key => (table.type key).name
  | .handle => "Type"
  | .box inner => "HostVariable<" ++ table.display inner ++ ">"

/-- Is the mentioned type compared and boxed by value? A nullable type is not. -/
def isValueType (table : TypeTable) : TypeRef → Bool
  | .bool | .char | .dateTime | .numeric _ => true
  | .named key => (table.type key).isValueType
  | _ => false

/-- Can a value of the mentioned type be null? -/
def acceptsNull (table : TypeTable) (type : TypeRef) : Bool :=
  !table.isValueType type && type != .void

mutual

/-- The value a type starts from: zeros for scalars, a struct of such values, null for the rest.
A struct's fields have types registered before it; a field that mentions a later one starts from
null. -/
def defaultValue (table : TypeTable) (bound : Nat) (type : TypeRef) : Value :=
  match type with
  | .bool => .bool false
  | .char => .char (Char.ofNat 0)
  | .dateTime => .dateTime 0
  | .numeric .single => .single default
  | .numeric .double => .double default
  | .numeric .decimal => .decimal default
  | .numeric kind => .integer ((Number.Integer.ofInt? kind 0).getD default)
  | .named key =>
    match (table.type key).kind with
    | .enumeration _ _ => .enumeration key 0
    | .struct =>
      if key < bound then .struct key (table.defaultFields key (table.type key).structFields)
      else .null
    | _ => .null
  | _ => .null
  termination_by (bound, 0)

/-- The values that the fields of a type start from. -/
def defaultFields (table : TypeTable) (bound : Nat) (fields : List Member) : List Value :=
  match fields with
  | [] => []
  | field :: rest => table.defaultValue bound field.type :: table.defaultFields bound rest
  termination_by (bound, fields.length + 1)

end

/-- The value a type starts from. -/
def initial (table : TypeTable) (type : TypeRef) : Value := table.defaultValue table.size type

end TypeTable

end ScriptBridge.Host
