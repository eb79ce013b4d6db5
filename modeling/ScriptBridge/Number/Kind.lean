/-
This file names the numeric kinds of the host side: eight integer widths, two
binary formats and the scaled decimal. An integer carries its kind and a proof
that the kind holds it, so no operation can produce one out of range.
-/

import ScriptBridge.Number.Binary

namespace ScriptBridge.Number

/-! ### Kinds -/

/-- A numeric kind, narrowest integers first. -/
inductive Kind
  | int8 | uint8 | int16 | uint16 | int32 | uint32 | int64 | uint64
  | single | double | decimal
  deriving DecidableEq, Repr, Inhabited

namespace Kind

/-- Every kind, in order. -/
def all : List Kind :=
  [.int8, .uint8, .int16, .uint16, .int32, .uint32, .int64, .uint64, .single, .double, .decimal]

/-- Does the kind hold whole numbers only? -/
def isIntegral : Kind → Bool
  | .single | .double | .decimal => false
  | _ => true

/-- Does the kind hold negative numbers? -/
def isSigned : Kind → Bool
  | .uint8 | .uint16 | .uint32 | .uint64 => false
  | _ => true

/-- The storage width in bits. -/
def bits : Kind → Nat
  | .int8 | .uint8 => 8
  | .int16 | .uint16 => 16
  | .int32 | .uint32 | .single => 32
  | .int64 | .uint64 | .double => 64
  | .decimal => 128

/-- The least and greatest value of an integral kind. -/
def range? (kind : Kind) : Option (Int × Int) :=
  match kind.isIntegral, kind.isSigned with
  | false, _ => none
  | true, true => some (-2 ^ (kind.bits - 1), 2 ^ (kind.bits - 1) - 1)
  | true, false => some (0, 2 ^ kind.bits - 1)

/-- Does the integral kind hold the value? Kinds that are not integral hold none. -/
def contains (kind : Kind) (value : Int) : Bool :=
  match kind.range? with
  | some (least, greatest) => least ≤ value && value ≤ greatest
  | none => false

/-- Is every value of the first integral kind a value of the second? -/
def isSubset (inner outer : Kind) : Bool :=
  match inner.range?, outer.range? with
  | some (innerLeast, innerGreatest), some (outerLeast, outerGreatest) =>
    outerLeast ≤ innerLeast && innerGreatest ≤ outerGreatest
  | _, _ => false

/-- The name of the kind as messages and types show it. -/
def name : Kind → String
  | .int8 => "SByte"
  | .uint8 => "Byte"
  | .int16 => "Int16"
  | .uint16 => "UInt16"
  | .int32 => "Int32"
  | .uint32 => "UInt32"
  | .int64 => "Int64"
  | .uint64 => "UInt64"
  | .single => "Single"
  | .double => "Double"
  | .decimal => "Decimal"

/-- The name of the kind in detailed texts, which tell integers by width and sign alone. -/
def widthName : Kind → String
  | .int8 => "Int8"
  | .uint8 => "UInt8"
  | kind => kind.name

/-- The kind with the given name. -/
def ofName? (text : String) : Option Kind := all.find? fun kind => kind.name == text

end Kind

/-! ### Integers of a kind -/

/-- An integer together with a kind that holds it. -/
structure Integer where
  kind : Kind
  value : Int
  held : kind.contains value = true
  deriving DecidableEq, Repr

namespace Integer

/-- The integer of a kind, if the kind holds the value. -/
def ofInt? (kind : Kind) (value : Int) : Option Integer :=
  if held : kind.contains value = true then some ⟨kind, value, held⟩ else none

theorem ofInt?_eq_some_iff {kind : Kind} {value : Int} {integer : Integer} :
    ofInt? kind value = some integer ↔
      kind.contains value = true ∧ integer.kind = kind ∧ integer.value = value := by
  obtain ⟨integerKind, integerValue, held⟩ := integer
  unfold ofInt?
  split
  · simp_all only [Option.some.injEq, Integer.mk.injEq, true_and]
    exact ⟨fun h => ⟨h.1.symm, h.2.symm⟩, fun h => ⟨h.1.symm, h.2.symm⟩⟩
  · simp_all

/-- A 32-bit zero. -/
def zero32 : Integer := ⟨.int32, 0, by decide⟩

instance : Inhabited Integer := ⟨zero32⟩

/-- A 32-bit integer, wrapped into range. -/
def wrap32 (value : Int) : Integer := (ofInt? .int32 (value.bmod (2 ^ 32))).getD zero32

end Integer

end ScriptBridge.Number
