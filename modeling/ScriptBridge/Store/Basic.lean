/-
This file holds the store: the registered types and the cells. A cell is created
once, under an identity that no other cell ever gets, and changes only as the
operations here say. What a host value is, as a type and as a text, is read off
the store.
-/

import ScriptBridge.Host.TypeTable
import ScriptBridge.Number.Shortest
import ScriptBridge.Store.Cell
import ScriptBridge.Text.Quoted

namespace ScriptBridge

/-- The registered types and the cells. A cell that has died leaves its place empty. -/
structure Store where
  types : Host.TypeTable := {}
  cells : Array (Option Cell) := #[]
  deriving Inhabited

namespace Store

/-! ### Cells -/

/-- The cell of an identity, while it lives. -/
def get? (store : Store) (cell : CellId) : Option Cell := (store.cells[cell]?).join

/-- Is the cell alive? -/
def isLive (store : Store) (cell : CellId) : Bool := (store.get? cell).isSome

/-- The store with one more cell, and its identity. -/
def create (store : Store) (cell : Cell) : Store × CellId :=
  let identity := store.cells.size
  ({ store with cells := store.cells.push (some cell) }, identity)

/-- The store with the contents of a cell replaced. -/
def put (store : Store) (cell : CellId) (contents : Cell) : Store :=
  { store with cells := store.cells.setIfInBounds cell (some contents) }

/-- The store with the contents of a cell changed. -/
def modify (store : Store) (cell : CellId) (change : Cell → Cell) : Store :=
  { store with cells := store.cells.modify cell (·.map change) }

/-- The store without a cell. -/
def remove (store : Store) (cell : CellId) : Store :=
  { store with cells := store.cells.setIfInBounds cell none }

/-- The object of a cell. -/
def object? (store : Store) (cell : CellId) : Option HostObject :=
  match store.get? cell with
  | some (.object object) => some object
  | _ => none

/-- The elements of a host array. -/
def hostItems (store : Store) (cell : CellId) : Array Host.Value :=
  match store.get? cell with
  | some (.hostArray _ items) => items
  | _ => #[]

/-- The declared element type of a host array. -/
def element (store : Store) (cell : CellId) : Host.TypeRef :=
  match store.get? cell with
  | some (.hostArray element _) => element
  | _ => .object

/-- The declared type of a box. -/
def boxType (store : Store) (cell : CellId) : Host.TypeRef :=
  match store.get? cell with
  | some (.box type _) => type
  | _ => .object

/-- The value in a box. -/
def boxValue (store : Store) (cell : CellId) : Host.Value :=
  match store.get? cell with
  | some (.box _ value) => value
  | _ => .null

/-- The store with the value of a box replaced. -/
def setBox (store : Store) (cell : CellId) (value : Host.Value) : Store :=
  store.put cell (.box (store.boxType cell) value)

/-- The bytes of a buffer. -/
def bytes (store : Store) (cell : CellId) : Bytes :=
  match store.get? cell with
  | some (.buffer bytes) => bytes
  | _ => #[]

/-- The type of a delegate. -/
def delegateType (store : Store) (cell : CellId) : Host.TypeKey :=
  match store.get? cell with
  | some (.delegate type _) => type
  | _ => 0

/-- The script function behind a delegate. -/
def delegateFunction? (store : Store) (cell : CellId) : Option CellId :=
  match store.get? cell with
  | some (.delegate _ (.function function)) => some function
  | _ => none

/-- The items of a script array. -/
def scriptItems (store : Store) (cell : CellId) : Array Script.Value :=
  match store.get? cell with
  | some (.scriptArray items) => items
  | _ => #[]

/-- The properties of a script object. -/
def properties (store : Store) (cell : CellId) : Named Script.Value :=
  match store.get? cell with
  | some (.scriptObject properties) => properties
  | _ => []

/-- The value of a property; undefined when absent. -/
def property (store : Store) (cell : CellId) (name : String) : Script.Value :=
  ((store.properties cell).get? name).getD .undefined

/-- The function of a cell. -/
def function (store : Store) (cell : CellId) : Function :=
  match store.get? cell with
  | some (.function function) => function
  | _ => default

/-- The proxy of a cell, if there is one. -/
def proxy? (store : Store) (cell : CellId) : Option Proxy :=
  match store.get? cell with
  | some (.proxy proxy) => some proxy
  | _ => none

/-- The proxy of a cell. -/
def proxy (store : Store) (cell : CellId) : Proxy :=
  match store.get? cell with
  | some (.proxy proxy) => proxy
  | _ => default

/-- The bound member of a cell. -/
def member (store : Store) (cell : CellId) : BoundMember :=
  match store.get? cell with
  | some (.member member) => member
  | _ => default

/-- The script value behind a handle. -/
def handle? (store : Store) (cell : CellId) : Option Script.Value :=
  match store.get? cell with
  | some (.handle value) => some value
  | _ => none

/-! ### Types of values -/

/-- The type key of an object of either sort. -/
def objectType (store : Store) (cell : CellId) : Host.TypeKey :=
  match store.get? cell with
  | some (.object object) => object.type
  | some (.connection connection) => connection.type
  | _ => 0

/-- The type of a value at run time. -/
def typeOf (store : Store) : Host.Value → Host.TypeRef
  | .undefined | .null | .script _ => .object
  | .bool _ => .bool
  | .integer value => .numeric value.kind
  | .single _ => .numeric .single
  | .double _ => .numeric .double
  | .decimal _ => .numeric .decimal
  | .char _ => .char
  | .string _ => .string
  | .dateTime _ => .dateTime
  | .enumeration type _ => .named type
  | .struct type _ => .named type
  | .object cell => .named (store.objectType cell)
  | .array cell => .array (store.element cell)
  | .buffer _ => .buffer
  | .view _ => .view
  | .delegate cell => .named (store.delegateType cell)
  | .type _ => .handle
  | .box cell => .box (store.boxType cell)

/-- The text of a value's type. -/
def typeText (store : Store) (value : Host.Value) : String :=
  store.types.display (store.typeOf value)

/-- Is the value an instance of the type? Null and undefined are instances of nothing. -/
def isInstance (store : Store) (value : Host.Value) (type : Host.TypeRef) : Bool :=
  !value.isNullish &&
    match type.underlying with
    | .object | .dynamic => true
    | .named expected =>
      match store.typeOf value with
      | .named actual => store.types.isAssignable actual expected
      | _ => false
    | other => store.typeOf value == other

/-! ### Texts of values -/

/-- The text of an enumeration value: the name of its constant or the number. -/
def enumerationText (store : Store) (type : Host.TypeKey) (raw : Int) : String :=
  ((store.types.type type).constantName? raw).getD (toString raw)

/-- The text that a value has by itself; a box has none. -/
def ownText? (store : Store) : Host.Value → Option String
  | .undefined => some "undefined"
  | .null => some ""
  | .bool value => some (if value then "True" else "False")
  | .integer value => some (toString value.value)
  | .single value => some value.toText
  | .double value => some value.toText
  | .decimal value => some value.toText
  | .char value => some value.toString
  | .string value => some value
  | .dateTime moment => some (Calendar.offsetText moment)
  | .enumeration type raw => some (store.enumerationText type raw)
  | .struct type _ => some (store.types.type type).name
  | .object cell => some (store.types.type (store.objectType cell)).name
  | .array cell => some (store.types.display (store.element cell) ++ "[]")
  | .buffer _ => some "ArrayBuffer"
  | .view view => some view.window.kind.name
  | .delegate cell => some (store.types.type (store.delegateType cell)).name
  | .type type => some (store.types.display type)
  | .box _ => none
  | .script _ => some "[script value]"

/-- The text of a value, looking into as many boxes as given; none where these are not enough. -/
def textWithin? (store : Store) : Nat → Host.Value → Option String
  | boxes + 1, .box cell => store.textWithin? boxes (store.boxValue cell)
  | _, value => store.ownText? value

/-- The text of a value. Boxes in boxes are looked into, which comes to an end within as many boxes
as there are cells or never does; then there is no text. -/
def text? (store : Store) (value : Host.Value) : Option String :=
  store.textWithin? (store.cells.size + 1) value

mutual

/-- The text of a value in detail, with its kind. -/
def detailedText (store : Store) : Host.Value → String
  | .undefined => "Undefined"
  | .null => "Null"
  | .bool value => s!"Bool({value})"
  | .integer value => value.kind.widthName ++ s!"({value.value})"
  | .single value => "Single(" ++ value.toDetailedText ++ ")"
  | .double value => "Double(" ++ value.toDetailedText ++ ")"
  | .decimal value => "Decimal(" ++ value.toText ++ ")"
  | .char value => "Char(" ++ Text.quotedChar value ++ ")"
  | .string value => "String(" ++ Text.quoted value ++ ")"
  | .dateTime moment => "DateTime(" ++ Calendar.zuluText moment ++ ")"
  | .enumeration type raw =>
    let name := (store.types.type type).name
    match (store.types.type type).constantName? raw with
    | some constant => "Enum(" ++ name ++ "." ++ constant ++ ")"
    | none => "Enum(" ++ name ++ s!"({raw}))"
  | .struct type fields =>
    let parts := ", ".intercalate (store.detailedTexts fields)
    "Struct(" ++ (store.types.type type).name ++ "[" ++ parts ++ "])"
  | .type type => "Type(TypeRef(" ++ store.types.display type ++ "))"
  | .buffer _ => "Buffer"
  | .view view => "View(" ++ view.window.kind.name ++ ")"
  | .object _ => "Object"
  | .array _ => "Array"
  | .delegate _ => "Delegate"
  | .box _ => "Variable"
  | .script _ => "Script(ScriptHandle)"

/-- The texts of values in detail. -/
def detailedTexts (store : Store) : List Host.Value → List String
  | [] => []
  | value :: rest => store.detailedText value :: store.detailedTexts rest

end

end Store

end ScriptBridge
