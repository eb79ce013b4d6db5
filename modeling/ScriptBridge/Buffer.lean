/-
This file holds binary buffers and windows onto them. A buffer is a fixed run of
bytes; a window is a part of one, read as elements of a kind. Every access is
checked before a byte moves: the range must lie in the buffer, in the window it
goes through and in the other side of the copy. Integral elements keep the low
bits of the number stored, little-endian.
-/

import ScriptBridge.Number.Binary

namespace ScriptBridge

open Number

/-- The contents of a buffer. -/
abbrev Bytes := Array UInt8

namespace Buffer

/-! ### Faults -/

/-- What a range is checked against. -/
inductive Region
  | buffer | destination | source | view
  deriving DecidableEq, Repr

/-- The region as messages name it. -/
def Region.name : Region → String
  | .buffer => "buffer"
  | .destination => "destination"
  | .source => "source"
  | .view => "view"

/-- Why an access is refused. -/
inductive Fault
  | offset (region : Region) (offset size : Nat)
  | length (region : Region) (length offset size : Nat)
  | ragged (length elementSize : Nat)
  | index (index : Nat)
  deriving DecidableEq, Repr

/-- The text of a fault. -/
def Fault.message : Fault → String
  | .offset region start size => s!"{region.name} offset {start} exceeds size {size}"
  | .length region count start size =>
    s!"{region.name} length {count} at offset {start} exceeds size {size}"
  | .ragged count elementSize => s!"view length {count} is not a multiple of {elementSize}"
  | .index place => s!"element index {place} out of range"

/-- Refuses a range that does not lie within the size. -/
def checkRange (region : Region) (offset length size : Nat) : Except Fault Unit :=
  if size < offset then .error (.offset region offset size)
  else if size - offset < length then .error (.length region length offset size)
  else .ok ()

/-! ### Copies -/

/-- The bytes with a run of them, from an index on, replaced by another run of bytes. -/
def splice (target : Bytes) (index : Nat) (run : Bytes) : Bytes :=
  target.extract 0 index ++ run ++ target.extract (index + run.size) target.size

/-- The destination after a copy from the buffer. -/
def read (bytes : Bytes) (offset length : Nat) (destination : Bytes) (index : Nat) :
    Except Fault Bytes := do
  checkRange .buffer offset length bytes.size
  checkRange .destination index length destination.size
  return splice destination index (bytes.extract offset (offset + length))

/-- The buffer after a copy from the source. -/
def write (bytes : Bytes) (source : Bytes) (index length offset : Nat) : Except Fault Bytes := do
  checkRange .buffer offset length bytes.size
  checkRange .source index length source.size
  return splice bytes offset (source.extract index (index + length))

/-! ### Element kinds -/

/-- How a window reads its bytes. -/
inductive ElementKind
  | data | int8 | uint8 | int16 | uint16 | int32 | uint32 | float32 | float64
  deriving DecidableEq, Repr, Inhabited

namespace ElementKind

/-- Every kind of element. -/
def all : List ElementKind :=
  [.data, .int8, .uint8, .int16, .uint16, .int32, .uint32, .float32, .float64]

/-- The bytes of an element. -/
def size : ElementKind → Nat
  | .data | .int8 | .uint8 => 1
  | .int16 | .uint16 => 2
  | .int32 | .uint32 | .float32 => 4
  | .float64 => 8

/-- The name script knows the kind by. -/
def name : ElementKind → String
  | .data => "DataView"
  | .int8 => "Int8Array"
  | .uint8 => "Uint8Array"
  | .int16 => "Int16Array"
  | .uint16 => "Uint16Array"
  | .int32 => "Int32Array"
  | .uint32 => "Uint32Array"
  | .float32 => "Float32Array"
  | .float64 => "Float64Array"

/-- The kind with the given name. -/
def ofName? (text : String) : Option ElementKind := all.find? fun kind => kind.name == text

/-- Are the elements signed integers? -/
def isSigned : ElementKind → Bool
  | .int8 | .int16 | .int32 => true
  | _ => false

end ElementKind

/-! ### Elements as bytes -/

/-- The whole number that the bytes spell, lowest byte first. -/
def littleEndian : List UInt8 → Nat
  | [] => 0
  | byte :: rest => byte.toNat + 256 * littleEndian rest

/-- The lowest bytes of a whole number, lowest first. -/
def toLittleEndian : Nat → Nat → List UInt8
  | 0, _ => []
  | count + 1, value => UInt8.ofNat (value % 256) :: toLittleEndian count (value / 256)

/-- A number without its fraction, modulo two to the 64th; what is not finite counts as 0. A size
below two to the 63rd is that of a signed integer of 64 bits, whose bits are taken; a larger one is
reduced first. -/
def wrapWhole (number : Double) : Nat :=
  let whole := number.whole
  if !number.isFinite then 0
  else if whole.abs.isLess (.ofInt .double (2 ^ 63)) then
    (whole.clampToInt (-2 ^ 63) (2 ^ 63 - 1) % 2 ^ 64).toNat
  else ((whole.euclideanRemainder (.ofInt .double (2 ^ 64))).clampToInt 0 (2 ^ 64 - 1)).toNat

/-- The number an element's bytes stand for. -/
def decodeElement (kind : ElementKind) (raw : List UInt8) : Double :=
  let bits := littleEndian raw
  match kind with
  | .float64 => .ofBits .double bits
  | .float32 => Single.toDouble (.ofBits .single bits)
  | kind =>
    .ofInt .double (if kind.isSigned then (bits : Int).bmod (2 ^ (8 * kind.size)) else bits)

/-- The bytes of an element that stores the number. -/
def encodeElement (kind : ElementKind) (number : Double) : List UInt8 :=
  match kind with
  | .float64 => toLittleEndian 8 number.toBits
  | .float32 => toLittleEndian 4 (Double.toSingle number).toBits
  | kind => toLittleEndian kind.size (wrapWhole number)

/-! ### Windows -/

/-- A part of a buffer and how to read it. -/
structure Window where
  kind : ElementKind
  offset : Nat
  length : Nat
  deriving DecidableEq, Repr, Inhabited

namespace Window

/-- The window over a range of a buffer of the given size. -/
def create (size : Nat) (kind : ElementKind) (offset length : Nat) : Except Fault Window := do
  checkRange .view offset length size
  if length % kind.size != 0 then .error (.ragged length kind.size)
  else .ok ⟨kind, offset, length⟩

/-- The window over a whole buffer. -/
def whole (size : Nat) (kind : ElementKind) : Except Fault Window := create size kind 0 size

/-- The number of elements. -/
def elementCount (window : Window) : Nat := window.length / window.kind.size

/-- The bytes within the window. -/
def bytes (window : Window) (contents : Bytes) : Bytes :=
  contents.extract window.offset (window.offset + window.length)

/-- A copy out of the window; the offset counts from its start. -/
def read (window : Window) (contents : Bytes) (offset length : Nat) (destination : Bytes)
    (index : Nat) : Except Fault Bytes := do
  checkRange .view offset length window.length
  Buffer.read contents (window.offset + offset) length destination index

/-- A copy into the window; the offset counts from its start. -/
def write (window : Window) (contents : Bytes) (source : Bytes) (index length offset : Nat) :
    Except Fault Bytes := do
  checkRange .view offset length window.length
  Buffer.write contents source index length (window.offset + offset)

/-- The place of an element in bytes, where 64 bits can count it. -/
def elementOffset (window : Window) (index : Nat) : Except Fault Nat :=
  let offset := index * window.kind.size
  if offset < 2 ^ 64 then .ok offset else .error (.index index)

/-- The number stored at an index. -/
def element (window : Window) (contents : Bytes) (index : Nat) : Except Fault Double := do
  let offset ← window.elementOffset index
  let raw ← window.read contents offset window.kind.size (Array.replicate window.kind.size 0) 0
  return decodeElement window.kind raw.toList

/-- The contents after storing a number at an index. -/
def setElement (window : Window) (contents : Bytes) (index : Nat) (number : Double) :
    Except Fault Bytes := do
  let offset ← window.elementOffset index
  window.write contents (encodeElement window.kind number).toArray 0 window.kind.size offset

end Window

end Buffer

end ScriptBridge
