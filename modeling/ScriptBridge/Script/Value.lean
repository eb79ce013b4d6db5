/-
This file holds the values of the script side. Primitives are held inline;
arrays, objects, functions, proxies for host values and members bound to a proxy
are held by the cell that identifies them. A wrapped null is null that remembers
the type it was declared as.
-/

import ScriptBridge.Host.Value

namespace ScriptBridge.Script

/-- A value as script sees it. -/
inductive Value
  | undefined
  | null
  | bool (value : Bool)
  | int (value : Int64)
  | double (value : Number.Double)
  | string (value : String)
  /-- Milliseconds from the start of 1970. -/
  | date (millis : Number.Double)
  | array (cell : CellId)
  | object (cell : CellId)
  | function (cell : CellId)
  | buffer (cell : CellId)
  | view (view : BufferView)
  /-- A stand-in for a host value. -/
  | proxy (cell : CellId)
  /-- A host member bound to a proxy. -/
  | member (cell : CellId)
  | wrappedNull (type : Host.TypeRef)
  deriving DecidableEq, Repr, Inhabited

namespace Value

/-- Is the value undefined? -/
def isUndefined : Value → Bool
  | undefined => true
  | _ => false

/-- Is the value undefined, null or a wrapped null? -/
def isNullish : Value → Bool
  | undefined | null | wrappedNull _ => true
  | _ => false

/-- The binary number of a number value. -/
def toDouble? : Value → Option Number.Double
  | int value => some (.ofInt .double value.toInt)
  | double value => some value
  | _ => none

/-- The integer of an integer value. -/
def toInt? : Value → Option Int
  | int value => some value.toInt
  | _ => none

/-- The text of a string value. -/
def toString? : Value → Option String
  | string value => some value
  | _ => none

/-- Does the value count as true? -/
def isTruthy : Value → Bool
  | undefined | null | wrappedNull _ => false
  | bool value => value
  | int value => value != 0
  | double value => !value.isZero && !value.isNaN
  | string value => !value.isEmpty
  | _ => true

/-- The name of the value's type in script. -/
def typeName : Value → String
  | undefined => "undefined"
  | bool _ => "boolean"
  | int _ | double _ => "number"
  | string _ => "string"
  | function _ | member _ => "function"
  | _ => "object"

/-- The cells a value holds. -/
def cells : Value → List CellId
  | array cell | object cell | function cell | buffer cell | proxy cell | member cell => [cell]
  | view window => [window.buffer]
  | _ => []

end Value

/-! ### Documents -/

/-- The document script code belongs to. A module is known by its specifier. -/
structure Document where
  name : String
  isModule : Bool := false
  specifier : Option String := none
  deriving DecidableEq, Repr, Inhabited

/-- The document of a classic script. -/
def Document.script (name : String) : Document := ⟨name, false, none⟩

/-- The document of a module. -/
def Document.module (specifier : String) : Document := ⟨specifier, true, some specifier⟩

end ScriptBridge.Script
