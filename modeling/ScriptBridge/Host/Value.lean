/-
This file holds the values of the host side. Scalars carry their exact kind, so
that a choice among overloads can tell widths apart. Enumeration values and
structs are values; objects, arrays, buffers, delegates and boxes are held
by the cell that identifies them, and a window names the cell of its buffer.
-/

import ScriptBridge.Buffer
import ScriptBridge.Calendar
import ScriptBridge.Host.TypeRef
import ScriptBridge.Number.Decimal

namespace ScriptBridge

/-- The identity of a cell of the store. Identities are never used again. -/
abbrev CellId := Nat

/-- A window together with the buffer it looks onto. -/
structure BufferView where
  buffer : CellId
  window : Buffer.Window
  deriving DecidableEq, Repr, Inhabited

namespace Host

/-- A value of the host side. -/
inductive Value
  | undefined
  | null
  | bool (value : Bool)
  | integer (value : Number.Integer)
  | single (value : Number.Single)
  | double (value : Number.Double)
  | decimal (value : Number.Decimal)
  | char (value : Char)
  | string (value : String)
  | dateTime (moment : Calendar.Moment)
  | enumeration (type : TypeKey) (raw : Int)
  | struct (type : TypeKey) (fields : List Value)
  | object (cell : CellId)
  | array (cell : CellId)
  | buffer (cell : CellId)
  | view (view : BufferView)
  | delegate (cell : CellId)
  | type (type : TypeRef)
  | box (cell : CellId)
  /-- A script value carried through untouched, behind a handle of its own. -/
  | script (handle : CellId)
  deriving Repr, Inhabited

namespace Value

/-! ### Classes of values -/

/-- Is the value null? -/
def isNull : Value → Bool
  | null => true
  | _ => false

/-- Is the value null or undefined? -/
def isNullish : Value → Bool
  | null | undefined => true
  | _ => false

/-- The kind of a numeric scalar. -/
def numericKind? : Value → Option Number.Kind
  | integer value => some value.kind
  | single _ => some .single
  | double _ => some .double
  | decimal _ => some .decimal
  | _ => none

/-- The integer of an integral scalar or an enumeration value. -/
def toInt? : Value → Option Int
  | integer value => some value.value
  | enumeration _ raw => some raw
  | _ => none

/-- The binary number nearest to a numeric scalar or an enumeration value. -/
def toDouble? : Value → Option Number.Double
  | single value => some (Number.Single.toDouble value)
  | double value => some value
  | decimal value => some value.toDouble
  | other => other.toInt?.map (Number.Binary.ofInt .double)

/-- The scalar of a kind nearest to an integer; integral kinds and decimals take only what they
hold. -/
def ofInt? (kind : Number.Kind) (value : Int) : Option Value :=
  match kind with
  | .single => some (single (.ofInt .single value))
  | .double => some (double (.ofInt .double value))
  | .decimal => (Number.Decimal.ofInt? value).map decimal
  | kind => (Number.Integer.ofInt? kind value).map integer

/-- The cell that identifies a value held by reference. -/
def identity? : Value → Option CellId
  | object cell | array cell | delegate cell | box cell | buffer cell => some cell
  | _ => none

/-- Can the value be held weakly? Buffers cannot. -/
def hasWeakForm : Value → Bool
  | object _ | array _ | delegate _ | box _ => true
  | _ => false

/-- Is the value compared and boxed by value? -/
def isValueLike : Value → Bool
  | bool _ | char _ | dateTime _ | enumeration _ _ | struct _ _ => true
  | other => other.numericKind?.isSome

/-! ### Cells -/

mutual

/-- The cells a value holds. -/
def cells : Value → List CellId
  | object cell | array cell | delegate cell | box cell | buffer cell => [cell]
  | script handle => [handle]
  | view window => [window.buffer]
  | struct _ fields => cellsOf fields
  | _ => []

/-- The cells that values hold. -/
def cellsOf : List Value → List CellId
  | [] => []
  | value :: rest => value.cells ++ cellsOf rest

end

/-! ### Equality -/

mutual

/-- Equality on the host side: scalars by kind and value, enumeration values and structs by
contents, the rest by identity. -/
def equals : Value → Value → Bool
  | undefined, undefined | null, null => true
  | bool left, bool right => left == right
  | integer left, integer right => left.kind == right.kind && left.value == right.value
  | single left, single right => left.equals right
  | double left, double right => left.equals right
  | decimal left, decimal right => left.equals right
  | char left, char right => left == right
  | string left, string right => left == right
  | dateTime left, dateTime right => left == right
  | enumeration leftType left, enumeration rightType right => leftType == rightType && left == right
  | struct leftType left, struct rightType right => leftType == rightType && equalsAll left right
  | object left, object right | array left, array right | buffer left, buffer right
  | delegate left, delegate right | box left, box right
  | script left, script right => left == right
  | view left, view right => left == right
  | type left, type right => left == right
  | _, _ => false

/-- Equality of values one by one. -/
def equalsAll : List Value → List Value → Bool
  | [], [] => true
  | left :: leftRest, right :: rightRest => left.equals right && equalsAll leftRest rightRest
  | _, _ => false

end

end Value

end Host

end ScriptBridge
