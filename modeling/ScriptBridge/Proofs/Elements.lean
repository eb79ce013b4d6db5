/-
This file says what an element of a window holds. A window of an integral kind stores
the low bits of a number's integer, lowest byte first, and reads them back as a signed
or an unsigned integer; what lies outside the element stays as it is. A place without
an element is refused, also one whose bytes no machine word counts.
-/

import ScriptBridge.Proofs.Copies
import ScriptBridge.Proofs.Wrapping

namespace ScriptBridge

open Number

namespace Number.Binary

/-- The number is the integer, neither more nor less, and zero has no sign. -/
structure IsInteger {format : Format} (number : Binary format) (value : Int) : Prop where
  finite : number.isFinite = true
  units : number.units = value.natAbs * 2 ^ format.unitShift
  negative : number.negative = decide (value < 0)

/-- A number is one integer only. -/
theorem IsInteger.unique {format : Format} {number : Binary format} {value other : Int}
    (isInteger : number.IsInteger value) (too : number.IsInteger other) : value = other := by
  have sizes : value.natAbs = other.natAbs :=
    Nat.eq_of_mul_eq_mul_right (Nat.two_pow_pos _) (isInteger.units.symm.trans too.units)
  have signs : value < 0 ↔ other < 0 :=
    decide_eq_decide.mp (isInteger.negative.symm.trans too.negative)
  omega

/-- Integers of few digits are numbers of the wider format. -/
theorem isInteger_ofInt {value : Int} (short : value.natAbs ≤ 2 ^ 53) :
    (ofInt Format.double value).IsInteger value := by
  have finite : (ofInt Format.double value).isFinite = true :=
    isFinite_ofInt (show 54 + 2 ≤ 2 ^ 10 by decide) (by omega)
  refine ⟨finite, ?_, negative_ofInt _ _⟩
  rw [units_ofInt finite, nearestSize_of_le short]

end Number.Binary

namespace Buffer

/-! ### Bytes of integers -/

/-- The byte of an integer at a place, counted from the lowest. -/
def byteOf (value : Int) (place : Nat) : UInt8 := UInt8.ofNat (value / 256 ^ place % 256).toNat

theorem length_toLittleEndian (count value : Nat) :
    (toLittleEndian count value).length = count := by
  induction count generalizing value with
  | zero => rfl
  | succ count inductionHypothesis =>
    rw [toLittleEndian, List.length_cons, inductionHypothesis]

theorem getElem?_toLittleEndian {count place : Nat} (value : Nat) (below : place < count) :
    (toLittleEndian count value)[place]? = some (byteOf value place) := by
  induction count generalizing value place with
  | zero => exact absurd below (Nat.not_lt_zero _)
  | succ count inductionHypothesis =>
    cases place with
    | zero =>
      rw [toLittleEndian, List.getElem?_cons_zero, byteOf, Int.pow_zero, Int.ediv_one]
      rfl
    | succ place =>
      rw [toLittleEndian, List.getElem?_cons_succ, inductionHypothesis _ (by omega), byteOf, byteOf,
        Int.pow_succ', ← Int.ediv_ediv_of_nonneg (by decide)]
      rfl

/-- The bytes spell what they can hold of the number. -/
theorem littleEndian_toLittleEndian (count value : Nat) :
    littleEndian (toLittleEndian count value) = value % 256 ^ count := by
  induction count generalizing value with
  | zero => rw [Nat.pow_zero, Nat.mod_one]; rfl
  | succ count inductionHypothesis =>
    have byte : (UInt8.ofNat (value % 256)).toNat = value % 256 := by
      rw [UInt8.toNat_ofNat', Nat.mod_mod]
    rw [toLittleEndian, littleEndian, byte, inductionHypothesis, Nat.pow_succ', Nat.mod_mul]

/-- The lowest bytes of an integer are those of what they can hold of it. -/
theorem byteOf_emod (value : Int) {place count : Nat} (below : place < count) :
    byteOf (value % (256 ^ count : Nat)) place = byteOf value place := by
  obtain ⟨further, rfl⟩ := Nat.exists_eq_add_of_lt below
  have split : ((256 ^ (place + further + 1) : Nat) : Int) =
      256 ^ place * (256 * 256 ^ further) := by
    rw [Int.natCast_pow, Int.pow_succ, Int.pow_add, Int.mul_assoc, Int.mul_comm (_ ^ further)]
    rfl
  unfold byteOf
  conv => rhs; rw [← Int.emod_add_mul_ediv value (256 ^ (place + further + 1) : Nat)]
  rw [split, Int.mul_assoc, Int.add_mul_ediv_left _ _ (Int.pow_ne_zero (by decide)), Int.mul_assoc,
    Int.add_mul_emod_self_left]

/-! ### Integral kinds -/

namespace ElementKind

/-- Are the elements integers? -/
def isIntegral : ElementKind → Bool
  | .float32 | .float64 => false
  | _ => true

/-- What an element of the kind holds of an integer: what its bits leave, as a signed or an
unsigned integer. -/
def residue (kind : ElementKind) (value : Int) : Int :=
  if kind.isSigned then value.bmod (2 ^ (8 * kind.size))
  else value % (2 ^ (8 * kind.size) : Nat)

variable {kind : ElementKind}

theorem size_pos (kind : ElementKind) : 0 < kind.size := by
  cases kind <;> decide

theorem size_le (kind : ElementKind) : kind.size ≤ 8 := by
  cases kind <;> decide

/-- Integral elements have at most 32 bits. -/
theorem bits_le (integral : kind.isIntegral = true) : 8 * kind.size ≤ 32 := by
  cases kind with
  | float32 | float64 => cases integral
  | _ => decide

theorem natAbs_residue_le (integral : kind.isIntegral = true) (value : Int) :
    (kind.residue value).natAbs ≤ 2 ^ 53 := by
  have positive := Nat.two_pow_pos (8 * kind.size)
  have bounded : 2 ^ (8 * kind.size) ≤ 2 ^ 32 := Nat.pow_le_pow_right Nat.two_pos (bits_le integral)
  unfold residue
  split
  · have least : _ ≤ value.bmod _ := Int.le_bmod positive
    have greatest : value.bmod _ < _ := Int.bmod_lt positive
    omega
  · have least := Int.emod_nonneg value (Int.natCast_ne_zero.mpr (Nat.ne_of_gt positive))
    have greatest := Int.emod_lt_of_pos value (Int.natCast_pos.mpr positive)
    omega

/-- What is held has the low bits of the integer. -/
theorem residue_emod (kind : ElementKind) (value : Int) :
    kind.residue value % (2 ^ (8 * kind.size) : Nat) = value % (2 ^ (8 * kind.size) : Nat) := by
  unfold residue
  split
  · exact Int.bmod_emod
  · exact Int.emod_emod ..

/-- The low bits decide what is held. -/
theorem residue_eq_iff {value other : Int} :
    kind.residue value = kind.residue other ↔
      value % (2 ^ (8 * kind.size) : Nat) = other % (2 ^ (8 * kind.size) : Nat) := by
  constructor
  · intro same
    rw [← residue_emod, same, residue_emod]
  · intro same
    unfold residue
    rw [← Int.emod_bmod value, same, Int.emod_bmod]

/-- What is held of an integer is held of what it is modulo two to the 64th. -/
theorem residue_emod_word (integral : kind.isIntegral = true) (value : Int) :
    kind.residue (value % 2 ^ 64) = kind.residue value := by
  refine residue_eq_iff.mpr (Int.emod_emod_of_dvd value ?_)
  exact Int.natCast_dvd_natCast.mpr
    (Nat.pow_dvd_pow 2 ((bits_le integral).trans (show 32 ≤ 64 by decide)))

end ElementKind

variable {kind : ElementKind}

theorem length_encodeElement (kind : ElementKind) (number : Double) :
    (encodeElement kind number).length = kind.size := by
  cases kind <;> exact length_toLittleEndian _ _

/-- An integral element is encoded by the lowest bytes of the number's integer. -/
theorem encodeElement_eq (integral : kind.isIntegral = true) {number : Double}
    (finite : number.isFinite = true) :
    encodeElement kind number = toLittleEndian kind.size (number.truncate % 2 ^ 64).toNat := by
  rw [← wrapWhole_eq finite]
  cases kind with
  | float32 | float64 => cases integral
  | _ => rfl

theorem toNat_emod_word (value : Int) : ((value % 2 ^ 64).toNat : Int) = value % 2 ^ 64 :=
  Int.toNat_of_nonneg (Int.emod_nonneg _ (by decide))

theorem getElem?_encodeElement (integral : kind.isIntegral = true) {number : Double}
    (finite : number.isFinite = true) {place : Nat} (below : place < kind.size) :
    (encodeElement kind number)[place]? = some (byteOf number.truncate place) := by
  rw [encodeElement_eq integral finite, getElem?_toLittleEndian _ below, toNat_emod_word,
    show (2 ^ 64 : Int) = (256 ^ 8 : Nat) from rfl,
    byteOf_emod _ (Nat.lt_of_lt_of_le below kind.size_le)]

/-- What the bytes of an integral element stand for is held of their number. -/
theorem decodeElement_toLittleEndian (integral : kind.isIntegral = true) (value : Nat) :
    decodeElement kind (toLittleEndian kind.size value) = .ofInt .double (kind.residue value) := by
  have held : kind.residue value = if kind.isSigned then
      (littleEndian (toLittleEndian kind.size value) : Int).bmod (2 ^ (8 * kind.size))
      else littleEndian (toLittleEndian kind.size value) := by
    rw [littleEndian_toLittleEndian, show 256 = 2 ^ 8 from rfl, ← Nat.pow_mul, Int.natCast_mod,
      Int.emod_bmod]
    rfl
  rw [held]
  cases kind with
  | float32 | float64 => cases integral
  | _ => rfl

theorem decodeElement_encodeElement (integral : kind.isIntegral = true) {number : Double}
    (finite : number.isFinite = true) :
    decodeElement kind (encodeElement kind number) =
      .ofInt .double (kind.residue number.truncate) := by
  rw [encodeElement_eq integral finite, decodeElement_toLittleEndian integral, toNat_emod_word,
    ElementKind.residue_emod_word integral]

/-! ### Elements of windows -/

theorem Window.lt_elementCount_iff {window : Window} {index : Nat} :
    index < window.elementCount ↔
      index * window.kind.size + window.kind.size ≤ window.length := by
  unfold elementCount
  rw [← Nat.succ_le_iff, Nat.le_div_iff_mul_le window.kind.size_pos, Nat.succ_mul]

/-- Stores a number in an element, in place. -/
def InPlace.setElement (window : Window) (index : Nat) (number : Double) : InPlace Nat := do
  let offset ← check (window.elementOffset index)
  writeThrough window (encodeElement window.kind number).toArray 0 window.kind.size offset

section

variable {contents left : Bytes} {offset length index : Nat} {number : Double}

/-- To store a number is to copy the bytes that encode it, where there is an element. -/
theorem Window.setElement_copiesExactly (kind : ElementKind)
    (inside : offset + length ≤ contents.size) (small : contents.size < 2 ^ 64) (index : Nat)
    (number : Double) :
    CopiesExactly (index < elementCount ⟨kind, offset, length⟩)
      (encodeElement kind number).toArray 0 contents (offset + index * kind.size) kind.size
      (setElement ⟨kind, offset, length⟩ contents index number)
      (InPlace.setElement ⟨kind, offset, length⟩ index number) := by
  have encoded : (encodeElement kind number).toArray.size = kind.size := by
    rw [List.size_toArray, length_encodeElement]
  have tiny : (encodeElement kind number).toArray.size < 2 ^ 64 := by
    have := kind.size_le
    omega
  by_cases word : index * kind.size < 2 ^ 64
  · have placed : elementOffset ⟨kind, offset, length⟩ index = .ok (index * kind.size) :=
      if_pos word
    have same : index * kind.size + kind.size ≤ length ∧
        0 + kind.size ≤ (encodeElement kind number).toArray.size ↔
          index < elementCount ⟨kind, offset, length⟩ := by
      rw [lt_elementCount_iff, encoded]
      exact and_iff_left (by omega)
    unfold setElement InPlace.setElement
    rw [placed]
    exact (write_copiesExactly kind inside small tiny 0 kind.size (index * kind.size)).congr same
  · -- A window ends where words can count, so there is no element so far out.
    have displaced : elementOffset ⟨kind, offset, length⟩ index = .error (.index index) :=
      if_neg word
    unfold setElement InPlace.setElement
    rw [displaced]
    refine ⟨fun fits => ?_, fun _ => ⟨_, rfl⟩, rfl⟩
    have := lt_elementCount_iff.mp fits
    dsimp only at this
    omega

/-- What is left of a buffer where an integer is stored in an element of a window: the bytes of
the element are the low bytes of the integer, no others have changed, and the element is read as
what its bits hold of the integer. -/
structure Stored (window : Window) (contents : Bytes) (index : Nat) (value : Int)
    (left : Bytes) : Prop where
  size : left.size = contents.size
  inside : ∀ place < window.kind.size,
    left[window.offset + index * window.kind.size + place]? = some (byteOf value place)
  outside : ∀ spot, spot < window.offset + index * window.kind.size ∨
    window.offset + index * window.kind.size + window.kind.size ≤ spot →
      left[spot]? = contents[spot]?
  reads : ∃ number, window.element left index = .ok number ∧
    number.IsInteger (window.kind.residue value)

/-- What is left says which low bits were stored, and no more. -/
theorem Stored.iff_emod {window : Window} {value other : Int}
    (stored : Stored window contents index value left) :
    Stored window contents index other left ↔
      value % (2 ^ (8 * window.kind.size) : Nat) = other % (2 ^ (8 * window.kind.size) : Nat) := by
  constructor
  · intro too
    obtain ⟨number, read, isInteger⟩ := stored.reads
    obtain ⟨again, readAgain, isIntegerToo⟩ := too.reads
    cases read.symm.trans readAgain
    exact ElementKind.residue_eq_iff.mp (isInteger.unique isIntegerToo)
  · intro same
    refine ⟨stored.size, fun place below => ?_, stored.outside,
      ElementKind.residue_eq_iff.mpr same ▸ stored.reads⟩
    rw [Nat.pow_mul] at same
    rw [stored.inside place below, ← byteOf_emod value below, ← byteOf_emod other below]
    exact congrArg (fun rest => some (byteOf rest place)) same

/-- What is read of an element is what its bytes, those that encode the number stored, stand for. -/
theorem Window.element_of_setElement (inside : offset + length ≤ contents.size)
    (small : contents.size < 2 ^ 64)
    (set : setElement ⟨kind, offset, length⟩ contents index number = .ok left) :
    element ⟨kind, offset, length⟩ left index =
      .ok (decodeElement kind (encodeElement kind number)) := by
  have setting := setElement_copiesExactly kind inside small index number
  have copied := setting.copied set
  have fits := lt_elementCount_iff.mp (setting.fits_of_ok set)
  dsimp only at fits
  have placed : elementOffset ⟨kind, offset, length⟩ index = .ok (index * kind.size) :=
    if_pos (show index * kind.size < 2 ^ 64 by omega)
  have cleared : (Array.replicate kind.size (0 : UInt8)).size = kind.size :=
    Array.size_replicate
  have leftSmall : left.size < 2 ^ 64 := copied.size ▸ small
  have clearedSmall : (Array.replicate kind.size (0 : UInt8)).size < 2 ^ 64 := by
    have := kind.size_le
    omega
  obtain ⟨raw, reading, back⟩ := (read_copiesExactly kind (copied.size ▸ inside) leftSmall
    clearedSmall (index * kind.size) 0 kind.size).copies ⟨fits, by omega⟩
  obtain rfl := (copied.trans back rfl).eq_source
    (List.size_toArray.trans (length_encodeElement _ _)) cleared
  unfold element
  rw [placed]
  change (read ⟨kind, offset, length⟩ left (index * kind.size) kind.size _ 0 >>= _) = _
  rw [reading]
  rfl

/-- What is stored in an integral element are the low bits of the number's integer. -/
theorem Window.stored (inside : offset + length ≤ contents.size) (small : contents.size < 2 ^ 64)
    (integral : kind.isIntegral = true) (finite : number.isFinite = true)
    (set : setElement ⟨kind, offset, length⟩ contents index number = .ok left) :
    Stored ⟨kind, offset, length⟩ contents index number.truncate left := by
  have copied := (setElement_copiesExactly kind inside small index number).copied set
  refine ⟨copied.size, fun place below => ?_, copied.outside, _, ?_,
    Binary.isInteger_ofInt (ElementKind.natAbs_residue_le integral _)⟩
  · have moved := copied.inside place below
    rw [moved, Nat.zero_add, List.getElem?_toArray, getElem?_encodeElement integral finite below]
  · rw [element_of_setElement inside small set, decodeElement_encodeElement integral finite]

end

/-- A window of an integral kind takes every finite number where it has an element: the element
holds the low bits of the number's integer, and nothing else has changed. Everywhere else it
refuses the number, also where no word counts the bytes before the place, and in place it then
changes nothing. -/
theorem elements_hold_low_bits {contents : Bytes} {window : Window} {kind : ElementKind}
    {offset length : Nat}
    (accepted : Window.create contents.size kind offset length = .ok window)
    (small : contents.size < 2 ^ 64) (integral : kind.isIntegral = true) (index : Nat)
    {number : Double} (finite : number.isFinite = true) :
    (index < window.elementCount → ∃ left, window.setElement contents index number = .ok left ∧
        Stored window contents index number.truncate left) ∧
      (window.elementCount ≤ index →
        ∃ fault, window.setElement contents index number = .error fault) ∧
      (InPlace.setElement window index number).on contents =
        some (InPlace.settled kind.size contents (window.setElement contents index number)) := by
  obtain ⟨inside, -, rfl⟩ := Window.create_eq_ok accepted
  have setting := Window.setElement_copiesExactly kind inside small index number
  refine ⟨fun within => ?_, fun beyond => setting.refuses (Nat.not_lt_of_le beyond),
    setting.settles⟩
  obtain ⟨left, set, -⟩ := setting.copies within
  exact ⟨left, set, Window.stored inside small integral finite set⟩

/-- Minus one and a half is stored in the second of two signed elements, whose bytes become those of
minus one; there is no third element, and none whose place in bytes is two to the 64th. -/
theorem elements_hold_low_bits_of_window :
    let contents : Bytes := #[0, 1, 2, 3, 4, 5]
    let window : Window := ⟨.int16, 1, 4⟩
    let number := Binary.ofQuotient .double true 3 2
    Window.create contents.size .int16 1 4 = .ok window ∧
      window.setElement contents 1 number = .ok #[0, 1, 2, 255, 255, 5] ∧
      (∃ read, window.element #[0, 1, 2, 255, 255, 5] 1 = .ok read ∧ read.IsInteger (-1)) ∧
      (∃ fault, window.setElement contents 2 number = .error fault) ∧
      ∃ fault, window.setElement contents (2 ^ 63) number = .error fault := by
  intro contents window number
  have accepted : Window.create contents.size .int16 1 4 = .ok window := rfl
  have finite : number.isFinite = true := by decide +kernel
  have holds := elements_hold_low_bits accepted (by decide) rfl
  obtain ⟨left, set, stored⟩ := (holds 1 finite).1 (by decide)
  have bytes : window.setElement contents 1 number = .ok #[0, 1, 2, 255, 255, 5] := by
    decide +kernel
  obtain rfl : left = #[0, 1, 2, 255, 255, 5] := Except.ok.inj (set.symm.trans bytes)
  have residue : window.kind.residue number.truncate = -1 := by decide +kernel
  exact ⟨accepted, set, residue ▸ stored.reads, (holds 2 finite).2.1 (by decide),
    (holds (2 ^ 63) finite).2.1 (by decide)⟩

end Buffer

end ScriptBridge
