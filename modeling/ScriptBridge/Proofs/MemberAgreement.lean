/-
This file shows that the use of a member does not depend on annotations once it was
looked up. What is read, written and called of slots that differ in annotations only,
in scenes that do, agrees, where what it starts does; only what a slot reads as may
tell the name that script knows it by.
-/

import ScriptBridge.Proofs.CodeAgreement
import ScriptBridge.Proofs.Finding
import ScriptBridge.Proofs.InvokeSteps

namespace ScriptBridge.Binding

open Host Run Bridge Conversion

variable {free : Annotated} {cut : Prop} {Failure : Type} {calls twin : Calls}
  {scene sceneTwin : Scene} {slot slotTwin : Slot}

/-! ### Bodies -/

/-- Uses of slots that are alike tell the same, whatever the annotations. -/
theorem note_use_agrees (scenes : scene.bare = sceneTwin.bare) (same : slot.bare = slotTwin.bare)
    (action : Action) :
    Agrees free cut Eq (note (.used ⟨scene, slot, action⟩) : Run Failure Unit)
      (note (.used ⟨sceneTwin, slotTwin, action⟩)) := by
  refine .note ?_
  show MemberEvent.used ⟨scene.bare, slot.bare, action⟩ =
    .used ⟨sceneTwin.bare, slotTwin.bare, action⟩
  rw [scenes, same]

theorem useBody_agrees (agree : calls.Agree free cut twin) (scenes : scene.bare = sceneTwin.bare)
    (same : slot.bare = slotTwin.bare) (action : Body → Action) (body : Body) (setting : Setting)
    (arguments : List Value) :
    Agrees free cut Eq (useBody calls scene slot action body setting arguments)
      (useBody twin sceneTwin slotTwin action body setting arguments) :=
  .bind_same (note_use_agrees scenes same _) fun _ => Body.run_agrees agree setting arguments body

theorem readAccessor_agrees (agree : calls.Agree free cut twin) (engine : EngineId)
    (scenes : scene.bare = sceneTwin.bare) (same : slot.bare = slotTwin.bare) (get : Body)
    (keys : List Value) :
    Agrees free cut Eq (readAccessor calls engine scene slot get keys)
      (readAccessor twin engine sceneTwin slotTwin get keys) := by
  unfold readAccessor
  rw [← Scene.subject_of_bare scenes]
  exact callHost_agrees engine
    (.bind_same (useBody_agrees agree scenes same _ _ _ _) fun _ => .pure _)

theorem writeAccessor_agrees (agree : calls.Agree free cut twin) (engine : EngineId)
    (scenes : scene.bare = sceneTwin.bare) (same : slot.bare = slotTwin.bare) (set : Body)
    (keys : List Value) (value : Value) :
    Agrees free cut Eq (writeAccessor calls engine scene slot set keys value)
      (writeAccessor twin engine sceneTwin slotTwin set keys value) := by
  unfold writeAccessor
  rw [← Scene.subject_of_bare scenes]
  exact callHost_agrees engine (.discard (useBody_agrees agree scenes same _ _ _ _))

/-- A body that is called answers alike. -/
theorem runBody_agrees (agree : calls.Agree free cut twin) (engine : EngineId)
    (scenes : scene.bare = sceneTwin.bare) (same : slot.bare = slotTwin.bare) (body : Body)
    (prepared : Prepared) :
    Agrees free cut Eq (runBody calls engine scene slot body prepared)
      (runBody twin engine sceneTwin slotTwin body prepared) := by
  unfold runBody
  rw [← Scene.subject_of_bare scenes, ← Slot.type_of_bare same]
  refine .bind_same (.held (callHost_agrees engine
    (useBody_agrees agree scenes same _ _ _ _))) fun ⟨answer, left⟩ => ?_
  refine .bind_same (writeBack_agrees prepared left) fun _ => ?_
  cases slot.declaration.type == TypeRef.void with
  | true => exact .pure _
  | false => exact toScript_agrees agree engine _ _

theorem bodyless_of_bare (same : slot.bare = slotTwin.bare) :
    bodyless slot = bodyless slotTwin := by
  unfold bodyless
  rw [Slot.implementation_of_bare same, Slot.name_of_bare same]

/-! ### Reading -/

theorem bound_agrees (proxy : CellId) (name : String) (kind : BoundKind) :
    IsBlind free cut (bound proxy name kind) :=
  .bind_same (.create _) fun _ => .pure _

theorem readData_agrees (agree : calls.Agree free cut twin) (engine : EngineId)
    (scenes : scene.bare = sceneTwin.bare) (same : slot.bare = slotTwin.bare)
    (named : slot.declaration.scriptName = slotTwin.declaration.scriptName) :
    Agrees free cut Eq (readData calls engine scene slot)
      (readData twin engine sceneTwin slotTwin) := by
  unfold readData
  rw [← Scene.subject_of_bare scenes, ← Slot.type_of_bare same, ← Slot.implementation_of_bare same,
    ← named]
  cases slot.implementation.implementation with
  | accessor get set =>
    cases get with
    | some get =>
      refine .bind_same (.held (readAccessor_agrees agree engine scenes same get [])) fun _ => ?_
      exact toScript_agrees agree engine _ _
    | none => exact .pure _
  | structField place =>
    cases scene.subject.self with
    | struct type fields =>
      refine .bind_same (note_use_agrees scenes same _) fun _ => ?_
      exact toScript_agrees agree engine _ _
    | _ => exact .bind_same (.typeText _) fun _ => .raise _
  | _ => exact .raise _

/-- Slots that script knows by the same name read alike. -/
theorem readSlot_agrees (agree : calls.Agree free cut twin) (engine : EngineId)
    (scenes : scene.bare = sceneTwin.bare) (same : slot.bare = slotTwin.bare)
    (named : slot.declaration.scriptName = slotTwin.declaration.scriptName) :
    Agrees free cut Eq (readSlot calls engine scene slot)
      (readSlot twin engine sceneTwin slotTwin) := by
  unfold readSlot
  refine .scope ?_
  rw [← Scene.proxy_of_bare scenes, ← Slot.kind_of_bare same, ← named]
  cases slot.declaration.kind with
  | method | indexer | event => exact bound_agrees _ _ _
  | constructor => exact .pure _
  | field | property => exact readData_agrees agree engine scenes same named

/-- What is no member is read off names, constants and cells. -/
theorem readOther_agrees (agree : calls.Agree free cut twin) (engine : EngineId) (proxy : CellId)
    (subject : Subject) (name : String) :
    Agrees free cut Eq (readOther calls engine proxy subject name)
      (readOther twin engine proxy subject name) := by
  have general : IsBlind free cut (if name == toStringName then bound proxy name .method
      else return .undefined : ScriptRun Script.Value) := by
    split
    · exact bound_agrees _ _ _
    · exact .pure _
  refine .bind_store (fun store => ?_) fun store => ?_
  · simp only [Store.types_bare, TypeTable.findNested?_bare, TypeTable.type_bare]
    rfl
  · cases subject with
    | statics type =>
      cases type with
      | named key =>
        dsimp only
        cases store.types.findNested? key name with
        | some nested => exact toScript_agrees agree engine _ _
        | none =>
          cases (store.types.type key).constant? name with
          | some raw => exact toScript_agrees agree engine _ _
          | none => exact general
      | _ => exact general
    | member value type => exact general
    | plain value =>
      cases value with
      | array cell =>
        dsimp only
        cases isLengthName name with
        | true => exact .pure _
        | false => exact general
      | box cell =>
        dsimp only
        cases isValueName name with
        | true => exact toScript_agrees agree engine _ _
        | false => exact general
      | _ => exact general

/-! ### Writing -/

theorem writeField_agrees (scenes : scene.bare = sceneTwin.bare) (same : slot.bare = slotTwin.bare)
    (name : String) (place : Nat) (value : Value) :
    Agrees free cut Eq (writeField scene slot name place value)
      (writeField sceneTwin slotTwin name place value) := by
  unfold writeField
  rw [← Scene.proxy_of_bare scenes]
  refine .bind_same (.readStore fun _ => rfl) fun contents => ?_
  split
  · dsimp only
    split
    · exact .bind_same (note_use_agrees scenes same _) fun _ => put_agrees _ _
    · exact .raise _
  · exact .raise _

theorem writeSlot_agrees (agree : calls.Agree free cut twin) (engine : EngineId)
    (scenes : scene.bare = sceneTwin.bare) (same : slot.bare = slotTwin.bare) (name : String)
    (value : Script.Value) :
    Agrees free cut Eq (writeSlot calls engine scene slot name value)
      (writeSlot twin engine sceneTwin slotTwin name value) := by
  unfold writeSlot
  rw [← Slot.type_of_bare same, ← Slot.implementation_of_bare same]
  refine .bind_same (converted_agrees engine value _) fun converted => ?_
  cases slot.implementation.implementation with
  | accessor get set =>
    cases set with
    | some set => exact writeAccessor_agrees agree engine scenes same set [] _
    | none => exact .raise _
  | structField place => exact writeField_agrees scenes same name place _
  | _ => exact .raise _

/-- A name that finds the same is written alike. -/
theorem setSlot_agrees (agree : calls.Agree free cut twin) (engine : EngineId) {name : String}
    (finds : scene.Finds sceneTwin name name) (value : Script.Value) :
    Agrees free cut Eq (setSlot calls engine scene name value)
      (setSlot twin engine sceneTwin name value) := by
  unfold setSlot
  rcases finds.first with ⟨left, right⟩ | ⟨first, _, firstTwin, _, left, right, pair⟩
  · rw [left, right]
    exact .raise _
  · have data : first.declaration.isData = firstTwin.declaration.isData := by
      unfold Member.isData
      rw [Slot.kind_of_bare pair.bare]
    rw [left, right]
    dsimp only
    rw [← pair.mayWrite, ← data, ← Slot.kind_of_bare pair.bare, ← Slot.implementation_of_bare pair.bare]
    split
    · exact .raise _
    · split
      · exact .raise _
      · exact writeSlot_agrees agree engine finds.bare pair.bare name value

theorem writeBox_agrees (engine : EngineId) (box : CellId) (value : Script.Value) :
    IsBlind free cut (writeBox engine box value) :=
  .bind_same (.readStore fun _ => rfl) fun _ =>
    .bind_same (converted_agrees engine value _) fun _ =>
      .modifyStore _ (fun _ => rfl) fun _ => rfl

end ScriptBridge.Binding
