/-
This file says what script stores in typed arrays. An integer that script assigns to
an element of an integral kind is rounded to 53 digits first, as all numbers of script
are that a window takes; it is the low bits of the nearest such integer that the
element holds and that script reads back. So the low bits of the integer itself are
kept exactly where rounding does not change them, and always up to two to the 53rd.
-/

import ScriptBridge.Proofs.Cells
import ScriptBridge.Proofs.Elements
import ScriptBridge.Proofs.Outcome
import ScriptBridge.Script.Operation

namespace ScriptBridge

open Number

namespace World

/-- A world with one buffer. -/
def ofBytes (bytes : Bytes) : World :=
  { (default : World) with store := ((default : Store).create (.buffer bytes)).1 }

/-- The world with other bytes in a buffer. -/
def withBytes (world : World) (buffer : CellId) (bytes : Bytes) : World :=
  { world with store := world.store.put buffer (.buffer bytes) }

/-- An element of a view has taken an integer: nothing but the bytes of the element has changed,
they are the low bytes of the integer, and script reads there what their bits hold of it. -/
structure Took (world : World) (view : BufferView) (index : Int64) (value : Int)
    (after : World) : Prop where
  stored : ∃ left, after = world.withBytes view.buffer left ∧
    Buffer.Stored view.window (world.store.bytes view.buffer) index.toInt.toNat value left
  read : ∀ calls engine, ∃ number,
    (Script.readIndex calls engine (.view view) [.int index]).outcome after =
        (.ok (.double number), after) ∧
      number.IsInteger (view.window.kind.residue value)

end World

namespace Script

variable {world : World} {view : BufferView} {index : Int64} {bytes left : Bytes} {number : Double}

theorem placeOf?_int (counts : 0 ≤ index.toInt) :
    placeOf? (.int index) = some index.toInt.toNat := by
  unfold placeOf? Value.toInt?
  rw [Option.filter_some, decide_eq_true counts, if_pos rfl, Option.map_some]

/-- Script reads the number that is stored. -/
theorem outcome_readIndex (calls : Calls) (engine : EngineId) (counts : 0 ≤ index.toInt)
    (stored : view.window.element (world.store.bytes view.buffer) index.toInt.toNat = .ok number) :
    (readIndex calls engine (.view view) [.int index]).outcome world =
      (.ok (.double number), world) := by
  unfold readIndex
  dsimp only
  rw [placeOf?_int counts]
  unfold getElement
  rw [Run.outcome_bind_of_ok (Run.outcome_readStore _ _), stored]
  rfl

/-- What script assigns is stored as a number. -/
theorem outcome_writeIndex (calls : Calls) (engine : EngineId) (counts : 0 ≤ index.toInt)
    {value : Value} (isNumber : value.toDouble? = some number)
    (stored : view.window.setElement (world.store.bytes view.buffer) index.toInt.toNat number =
      .ok left) :
    (writeIndex calls engine (.view view) [.int index] value).outcome world =
      (.ok (), world.withBytes view.buffer left) := by
  change (setElement view (.int index) value).outcome world = _
  unfold setElement
  rw [placeOf?_int counts, isNumber]
  dsimp only
  rw [Run.outcome_bind_of_ok (Run.outcome_readStore _ _), stored]
  rfl

end Script

namespace World

variable {world after : World} {view : BufferView} {index : Int64} {bytes left right : Bytes}
  {value other : Int}

theorem bytes_eq (found : world.store.get? view.buffer = some (.buffer bytes)) :
    world.store.bytes view.buffer = bytes := by
  unfold Store.bytes
  rw [found]

theorem bytes_withBytes (found : world.store.get? view.buffer = some (.buffer bytes))
    (left : Bytes) : (world.withBytes view.buffer left).store.bytes view.buffer = left := by
  unfold withBytes Store.bytes
  rw [Store.get?_put_self (Store.lt_size_of_get? found)]

theorem withBytes_inj (found : world.store.get? view.buffer = some (.buffer bytes))
    (same : world.withBytes view.buffer left = world.withBytes view.buffer right) :
    left = right :=
  calc left = (world.withBytes view.buffer left).store.bytes view.buffer :=
        (bytes_withBytes found left).symm
    _ = (world.withBytes view.buffer right).store.bytes view.buffer := by rw [same]
    _ = right := bytes_withBytes found right

/-- What is stored in an element is what script reads there. -/
theorem took_of_stored (found : world.store.get? view.buffer = some (.buffer bytes))
    (counts : 0 ≤ index.toInt)
    (stored : Buffer.Stored view.window bytes index.toInt.toNat value left) :
    world.Took view index value (world.withBytes view.buffer left) := by
  refine ⟨⟨left, rfl, bytes_eq found ▸ stored⟩, fun calls engine => ?_⟩
  obtain ⟨number, read, isInteger⟩ := stored.reads
  rw [← bytes_withBytes found left] at read
  exact ⟨number, Script.outcome_readIndex calls engine counts read, isInteger⟩

/-- What is left says which low bits an element has taken, and no more. -/
theorem took_iff_emod (found : world.store.get? view.buffer = some (.buffer bytes))
    (counts : 0 ≤ index.toInt)
    (stored : Buffer.Stored view.window bytes index.toInt.toNat value left) :
    world.Took view index other (world.withBytes view.buffer left) ↔
      value % (2 ^ (8 * view.window.kind.size) : Nat) =
        other % (2 ^ (8 * view.window.kind.size) : Nat) := by
  rw [← stored.iff_emod]
  constructor
  · rintro ⟨⟨again, same, storedAgain⟩, -⟩
    rwa [bytes_eq found, ← withBytes_inj found same] at storedAgain
  · exact took_of_stored found counts

end World

open World

/-- Whatever integer script assigns to an element of a view of an integral kind, the element takes
the nearest integer of 53 digits. It takes the integer itself exactly if the low bits of both are
the same, and so up to two to the 53rd. -/
theorem typed_arrays_take_nearest {world : World} {view : BufferView} {bytes : Bytes}
    {kind : Buffer.ElementKind} {offset length : Nat}
    (found : world.store.get? view.buffer = some (.buffer bytes)) (small : bytes.size < 2 ^ 64)
    (accepted : Buffer.Window.create bytes.size kind offset length = .ok view.window)
    (integral : kind.isIntegral = true) {index : Int64} (counts : 0 ≤ index.toInt)
    (within : index.toInt < view.window.elementCount) (calls : Calls) (engine : EngineId)
    (value : Int64) :
    ∃ after, (Script.writeIndex calls engine (.view view) [.int index] (.int value)).outcome world =
        (.ok (), after) ∧
      world.Took view index (nearest .double value.toInt) after ∧
      (world.Took view index value.toInt after ↔
        nearest .double value.toInt % (2 ^ (8 * kind.size) : Nat) =
          value.toInt % (2 ^ (8 * kind.size) : Nat)) ∧
      (value.toInt.natAbs ≤ 2 ^ 53 → world.Took view index value.toInt after) := by
  obtain ⟨buffer, window⟩ := view
  obtain ⟨inside, -, rfl⟩ := Buffer.Window.create_eq_ok accepted
  have finite := Binary.isFinite_ofInt_toInt value
  dsimp only at within
  obtain ⟨left, set, -⟩ := (Buffer.Window.setElement_copiesExactly kind inside small
    index.toInt.toNat (.ofInt .double value.toInt)).copies (by omega)
  have stored := Buffer.Window.stored inside small integral finite set
  rw [Binary.truncate_ofInt finite] at stored
  have took := took_of_stored found counts stored
  refine ⟨_, Script.outcome_writeIndex calls engine counts rfl (bytes_eq found ▸ set), took,
    took_iff_emod found counts stored, fun short => ?_⟩
  rwa [nearest_of_le short] at took

/-- Three more than two to the 53rd is rounded up to the next integer that is kept, whose low bits
script reads back. -/
theorem typed_arrays_take_nearest_of_word :
    let world := World.ofBytes #[9, 9, 9, 9, 9]
    let view : BufferView := ⟨0, ⟨.uint16, 1, 4⟩⟩
    ∃ after, (Script.writeIndex .exhausted 0 (.view view) [.int 1]
        (.int 9007199254740995)).outcome world = (.ok (), after) ∧
      after.store.bytes 0 = #[9, 9, 9, 4, 0] ∧
      world.Took view 1 9007199254740996 after := by
  intro world view
  have rounded : nearest .double (9007199254740995 : Int64).toInt = 9007199254740996 := by
    decide +kernel
  have found : world.store.get? view.buffer = some (.buffer #[9, 9, 9, 9, 9]) := rfl
  have set : view.window.setElement (world.store.bytes view.buffer) (1 : Int64).toInt.toNat
      (.ofInt .double (9007199254740995 : Int64).toInt) = .ok #[9, 9, 9, 4, 0] := by
    decide +kernel
  obtain ⟨after, written, took, -⟩ := typed_arrays_take_nearest found (by decide)
    (show Buffer.Window.create 5 .uint16 1 4 = .ok view.window from rfl) rfl
    (show 0 ≤ (1 : Int64).toInt by decide) (by decide) .exhausted 0 9007199254740995
  rw [rounded] at took
  cases written.symm.trans (Script.outcome_writeIndex .exhausted 0 (by decide) rfl set)
  exact ⟨_, written, bytes_withBytes found _, took⟩

/-- One more than two to the 53rd is not what an element takes when script assigns it. -/
theorem low_bit_is_rounded_away :
    let world := World.ofBytes #[0, 0, 0, 0]
    let view : BufferView := ⟨0, ⟨.int32, 0, 4⟩⟩
    ¬∃ after, (Script.writeIndex .exhausted 0 (.view view) [.int 0]
        (.int 9007199254740993)).outcome world = (.ok (), after) ∧
      world.Took view 0 9007199254740993 after := by
  rintro world view ⟨after, written, took⟩
  have found : world.store.get? view.buffer = some (.buffer #[0, 0, 0, 0]) := rfl
  have set : view.window.setElement (world.store.bytes view.buffer) (0 : Int64).toInt.toNat
      (.ofInt .double (9007199254740993 : Int64).toInt) = .ok #[0, 0, 0, 0] := by
    decide +kernel
  cases written.symm.trans (Script.outcome_writeIndex .exhausted 0 (by decide) rfl set)
  obtain ⟨left, same, stored⟩ := took.stored
  have lowest := stored.inside 0 (by decide)
  rw [← withBytes_inj found same] at lowest
  exact absurd lowest (by decide +kernel)

end ScriptBridge
