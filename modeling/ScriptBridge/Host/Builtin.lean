/-
This file holds the types that are registered before all others: the type whose
static members are the helper functions offered to script, and the type of the
connections that attaching a handler to an event answers with.
-/

import ScriptBridge.Host.TypeTable

namespace ScriptBridge.Host

/-! ### Helper functions -/

/-- A function that the engine carries out for script. -/
inductive Helper
  | cast
  | isType
  | asType
  | delete
  | newArray
  | newObject
  | newBox
  | flags
  /-- The value in exactly the kind, boxed. -/
  | number (kind : Number.Kind)
  | char
  | typeOf
  /-- The object with its dynamic capability passed by. -/
  | toStatic
  | isNull
  deriving DecidableEq, Repr

namespace Helper

/-- The helper functions in order, each with its name and its number. -/
def table : List (String × Nat × Helper) :=
  [("cast", 0x100, .cast), ("isType", 0x101, .isType), ("asType", 0x102, .asType),
    ("del", 0x103, .delete), ("newArr", 0x104, .newArray), ("newObj", 0x105, .newObject),
    ("newVar", 0x106, .newBox), ("flags", 0x107, .flags),
    ("toSByte", 0x110, .number .int8), ("toByte", 0x111, .number .uint8),
    ("toInt16", 0x112, .number .int16), ("toUInt16", 0x113, .number .uint16),
    ("toInt32", 0x114, .number .int32), ("toUInt32", 0x115, .number .uint32),
    ("toInt64", 0x116, .number .int64), ("toUInt64", 0x117, .number .uint64),
    ("toSingle", 0x118, .number .single), ("toDouble", 0x119, .number .double),
    ("toDecimal", 0x11A, .number .decimal), ("toChar", 0x11B, .char),
    ("typeOf", 0x120, .typeOf), ("toStaticType", 0x121, .toStatic), ("isNull", 0x122, .isNull)]

/-- The helper function with a number. -/
def ofNumber? (number : Nat) : Option Helper :=
  (table.find? fun entry => entry.2.1 == number).map (·.2.2)

end Helper

namespace Builtin

/-- The key of the type of helper functions. -/
def functions : TypeKey := 0

/-- The key of the type of connections. -/
def connection : TypeKey := 1

/-- The member for a helper function. Helpers take the arguments as script gives them. -/
def helperMember (name : String) (number : Nat) : Member :=
  { declaring := functions, declaringAccess := none
    name, kind := .method, isStatic := true, isPrivate := false
    parameters := [{ name := "args", type := .array .object, collects := true }]
    type := .object, access := none, rename := none
    implementation := .intrinsic number }

/-- The type of helper functions. -/
def functionsType : HostType :=
  { name := "HostFunctions", kind := .static
    members := Helper.table.map fun entry => helperMember entry.1 entry.2.1 }

/-- A member of connections. -/
def connectionMember (name : String) (kind : MemberKind) (type : TypeRef)
    (implementation : Implementation) : Member :=
  { declaring := connection, declaringAccess := none
    name, kind, isStatic := false, isPrivate := false, parameters := []
    type, access := none, rename := none, implementation }

/-- The type of connections. -/
def connectionType : HostType :=
  { name := "EventConnection", kind := .reference
    members :=
      [connectionMember "disconnect" .method .void (.invoke .disconnect),
        connectionMember "connected" .property .bool (.accessor (some .connected) none)] }

/-- The table with the types that come first. -/
def types : TypeTable := ⟨#[functionsType, connectionType]⟩

end Builtin

end ScriptBridge.Host
