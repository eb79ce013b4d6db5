/-
This file shows that calls, indexing and events do not depend on annotations once a
proxy was looked at. Where a name finds the same in scenes that differ in annotations
only, the same overloads are chosen, and what they answer is called, or assigned
through, alike, where the calls agree. Keys are read and written alike even where the
indexers go by another name.
-/

import ScriptBridge.Proofs.MemberAgreement

namespace ScriptBridge.Binding

open Host Run Bridge Conversion

variable {free : Annotated} {cut : Prop} {calls twin : Calls} {scene sceneTwin : Scene}
  {slot slotTwin : Slot}

/-! ### Methods -/

/-- A method is called alike where host code carries it out. -/
theorem invokeSlot_agrees (agree : calls.Agree free cut twin) (engine : EngineId)
    (scenes : scene.bare = sceneTwin.bare) (same : slot.bare = slotTwin.bare)
    (hosted : ∀ number, slot.implementation.implementation ≠ .intrinsic number)
    (prepared : Prepared) (arguments : List Script.Value) :
    Agrees free cut Eq (invokeSlot calls engine scene slot prepared arguments)
      (invokeSlot twin engine sceneTwin slotTwin prepared arguments) := by
  unfold invokeSlot
  rw [← Slot.implementation_of_bare same, ← bodyless_of_bare same]
  cases carried : slot.implementation.implementation with
  | invoke body => exact runBody_agrees agree engine scenes same body prepared
  | intrinsic number => exact absurd carried (hosted number)
  | _ => exact .raise _

/-- The best overload of a name is called alike, and so is what the name answers where none takes
the arguments. -/
theorem invokeMethod_agrees (agree : calls.Agree free cut twin) (engine : EngineId)
    {name : String} (finds : scene.FindsHosted sceneTwin name) (arguments : List Script.Value) :
    Agrees free cut Eq (invokeMethod calls engine scene name arguments)
      (invokeMethod twin engine sceneTwin name arguments) := by
  have chosen : Agrees free cut _ _ _ := resolve_agrees engine name (finds.ofKind .method)
    (fun pair => Slot.parameters_of_bare pair.bare) (scene.lookup name).declared arguments
  unfold invokeMethod
  dsimp only
  rw [← finds.declared, ← finds.misses]
  refine .bind_of_yields chosen.settleAlike fun yields settled => ?_
  cases settled with
  | @ok chosen chosenTwin same =>
    have hosted := finds.hosted.of_mem_ofKind (mem_of_resolve_yields yields.of_settle)
    obtain ⟨slot, prepared⟩ := chosen
    obtain ⟨slotTwin, preparedTwin⟩ := chosenTwin
    obtain ⟨pair, ready⟩ := same
    cases ready
    exact invokeSlot_agrees agree engine finds.bare pair.bare hosted prepared arguments
  | error failure =>
    dsimp only
    rcases finds.getter with ⟨left, right⟩ | ⟨getter, getterTwin, left, right, pair⟩
    · rw [left, right]
      exact .raise _
    · have hosted := finds.hosted.of_mem_ofKind (List.mem_of_find?_eq_some left)
      rw [left, right]
      cases missesCount scene.slots name arguments.length with
      | true =>
        refine .bind_same (.held (invokeSlot_agrees agree engine finds.bare pair.bare hosted _ _)) ?_
        exact fun value => agree.callValue engine value arguments
      | false => exact .raise _

/-- A delegate is called alike where delegates are invoked alike. -/
theorem callDelegate_agrees (agree : calls.Agree free cut twin) (engine : EngineId)
    (delegate : CellId) (arguments : List Script.Value) :
    Agrees free cut Eq (callDelegate calls engine delegate arguments)
      (callDelegate twin engine delegate arguments) := by
  refine .bind_types (fun table => ?_) fun table => ?_
  · simp only [TypeTable.type_bare]
    rfl
  · refine .bind_same (.readStore fun _ => rfl) fun key => ?_
    dsimp only
    cases (table.type key).signature? with
    | none => exact .raise _
    | some signature =>
      refine .bind_same (.settle (prepare_agrees engine _ _)) fun ready => ?_
      cases ready with
      | error mismatch => cases mismatch <;> exact .raise _
      | ok prepared =>
        refine .bind_same (.held (callHost_agrees engine (agree.invokeDelegate _ _))) ?_
        rintro ⟨answer, left⟩
        refine .bind_same (writeBack_agrees prepared left) fun _ => ?_
        cases signature.result == TypeRef.void with
        | true => exact .pure _
        | false => exact toScript_agrees agree engine _ _

/-! ### Indexers -/

/-- Keys are read alike where names find the same indexers. -/
theorem readIndexer_agrees (agree : calls.Agree free cut twin) (engine : EngineId)
    {name nameTwin : String} (finds : scene.Finds sceneTwin name nameTwin)
    (keys : List Script.Value) :
    Agrees free cut Eq (readIndexer calls engine scene name keys)
      (readIndexer twin engine sceneTwin nameTwin keys) := by
  unfold readIndexer
  dsimp only
  rw [← finds.declared, ← Scene.subject_of_bare finds.bare]
  refine .bind (resolve_agrees engine _ (finds.ofKind .indexer)
    (fun pair => Slot.parameters_of_bare pair.bare) _ keys) ?_
  rintro ⟨slot, prepared⟩ ⟨slotTwin, _⟩ ⟨pair, ready⟩
  cases ready
  dsimp only at pair ⊢
  have writeOnly : IsBlind free cut (do
      raise (.accessDenied s!"indexer of {← typeText scene.subject.self} is write-only") :
        ScriptRun Script.Value) := .bind_same (.typeText _) fun _ => .raise _
  rw [← Slot.implementation_of_bare pair.bare, ← Slot.type_of_bare pair.bare]
  cases slot.implementation.implementation with
  | accessor get set =>
    cases get with
    | some get =>
      refine .bind_same (.held (readAccessor_agrees agree engine finds.bare pair.bare get _)) ?_
      exact fun _ => toScript_agrees agree engine _ _
    | none => exact writeOnly
  | _ => exact writeOnly

/-- Keys are written alike where names find the same indexers. -/
theorem writeIndexer_agrees (agree : calls.Agree free cut twin) (engine : EngineId)
    {name nameTwin : String} (finds : scene.Finds sceneTwin name nameTwin)
    (keys : List Script.Value) (value : Script.Value) :
    Agrees free cut Eq (writeIndexer calls engine scene name keys value)
      (writeIndexer twin engine sceneTwin nameTwin keys value) := by
  unfold writeIndexer
  dsimp only
  rw [← finds.declared, ← Scene.subject_of_bare finds.bare]
  refine .bind (resolve_agrees engine _ (finds.ofKind .indexer)
    (fun pair => Slot.parameters_of_bare pair.bare) _ keys) ?_
  rintro ⟨slot, prepared⟩ ⟨slotTwin, _⟩ ⟨pair, ready⟩
  cases ready
  dsimp only at pair ⊢
  have readOnly : IsBlind free cut (do
      raise (.accessDenied s!"indexer of {← typeText scene.subject.self} is read-only") :
        ScriptRun Unit) := .bind_same (.typeText _) fun _ => .raise _
  rw [← pair.mayWrite, ← Slot.implementation_of_bare pair.bare, ← Slot.type_of_bare pair.bare]
  cases scene.sight.mayWrite slot with
  | false => exact readOnly
  | true =>
    cases slot.implementation.implementation with
    | accessor get set =>
      cases set with
      | some set =>
        refine .bind_same (converted_agrees engine value _) fun converted => ?_
        exact writeAccessor_agrees agree engine finds.bare pair.bare set _ _
      | none => exact readOnly
    | _ => exact readOnly

theorem arrayPlace_agrees (key : Script.Value) : IsBlind free cut (arrayPlace key) := by
  unfold arrayPlace
  split
  · exact .pure _
  · exact .bind_same (.describe key) fun _ => .raise _

theorem readElement_agrees (agree : calls.Agree free cut twin) (engine : EngineId)
    (array : CellId) (key : Script.Value) :
    Agrees free cut Eq (readElement calls engine array key)
      (readElement twin engine array key) := by
  refine .bind_same (arrayPlace_agrees key) fun place => ?_
  refine .bind_same (.readStore fun _ => rfl) fun items => ?_
  cases items[place]? with
  | some item =>
    exact .bind_same (.readStore fun _ => rfl) fun _ => toScript_agrees agree engine _ _
  | none => exact .raise _

theorem writeElement_agrees (engine : EngineId) (array : CellId) (key value : Script.Value) :
    IsBlind free cut (writeElement engine array key value) := by
  refine .bind_same (arrayPlace_agrees key) fun place => ?_
  refine .bind_same (.readStore fun _ => rfl) fun element => ?_
  refine .bind_same (converted_agrees engine value element) fun converted => ?_
  refine .bind_same (.readStore fun _ => rfl) fun items => ?_
  split
  · exact put_agrees _ _
  · exact .raise _

/-! ### Calls on proxies -/

/-- A name that is no member is called alike. -/
theorem invokeOther_agrees (agree : calls.Agree free cut twin) (engine : EngineId)
    (subject : Subject) (name : String) (arguments : List Script.Value) :
    Agrees free cut Eq (invokeOther calls engine subject name arguments)
      (invokeOther twin engine subject name arguments) := by
  unfold invokeOther
  cases name == toStringName && arguments.isEmpty with
  | true =>
    cases subject with
    | statics type =>
      exact .bind_types (fun table => by rw [TypeTable.display_bare]) fun _ => .pure _
    | _ => exact .bind_same (.valueText _) fun _ => .pure _
  | false =>
    cases subject with
    | member value type =>
      cases value with
      | delegate cell =>
        cases name == invokeName with
        | true => exact callDelegate_agrees agree engine cell arguments
        | false => exact .raise _
      | _ => exact .raise _
    | _ => exact .raise _

/-- Where a name finds the same, what it finds is called alike. -/
theorem invokeFound_agrees (agree : calls.Agree free cut twin) (engine : EngineId)
    {name : String} (finds : scene.FindsHosted sceneTwin name) (arguments : List Script.Value) :
    Agrees free cut Eq (invokeFound calls engine scene name arguments)
      (invokeFound twin engine sceneTwin name arguments) := by
  unfold invokeFound
  rcases finds.first with ⟨left, right⟩ | ⟨first, _, firstTwin, _, left, right, pair⟩
  · rw [left, right, Scene.subject_of_bare finds.bare]
    exact invokeOther_agrees agree engine _ name arguments
  · have named := scriptName_eq_of_first left right
    rw [left, right]
    dsimp only
    rw [← Slot.kind_of_bare pair.bare]
    cases first.declaration.kind with
    | method => exact invokeMethod_agrees agree engine finds arguments
    | indexer => exact readIndexer_agrees agree engine finds.toFinds arguments
    | field | property =>
      refine .bind_same (.held (readSlot_agrees agree engine finds.bare pair.bare named)) ?_
      intro value
      cases arguments.isEmpty with
      | true => exact .pure _
      | false => exact agree.callValue engine value arguments
    | event => exact .raise _
    | constructor => exact .raise _

/-- Where names find the same and what they find first is an indexer, keys are read alike. -/
theorem invokeFound_agrees_of_indexer (agree : calls.Agree free cut twin) (engine : EngineId)
    {name nameTwin : String} (finds : scene.Finds sceneTwin name nameTwin) {first : Slot}
    {rest : List Slot} (found : (scene.lookup name).visible = first :: rest)
    (indexer : first.declaration.kind = .indexer) (arguments : List Script.Value) :
    Agrees free cut Eq (invokeFound calls engine scene name arguments)
      (invokeFound twin engine sceneTwin nameTwin arguments) := by
  unfold invokeFound
  obtain ⟨other, others, foundTwin, pair⟩ := finds.first_of_cons found
  rw [found, foundTwin]
  dsimp only
  rw [← Slot.kind_of_bare pair.bare, indexer]
  exact readIndexer_agrees agree engine finds arguments

/-! ### Events -/

theorem handlerOf_agrees (engine : EngineId) (type : TypeRef) (arguments : List Script.Value) :
    IsBlind free cut (handlerOf engine type arguments) := by
  unfold handlerOf
  split
  · refine .bind_same (converted_agrees engine _ type) fun converted => ?_
    split
    · exact .pure _
    · refine .bind_types (fun table => ?_) fun table => ?_
      · simp only [TypeTable.display_bare]
      · exact .bind_same (.typeText _) fun _ => .raise _
  · exact .raise _

/-- A handler is attached to an event alike. -/
theorem attach_agrees (engine : EngineId) (scenes : scene.bare = sceneTwin.bare)
    (same : slot.bare = slotTwin.bare) (source : Value) (event : String) (handler : CellId) :
    Agrees free cut Eq
      (callHost engine do
        note (.used ⟨scene, slot, .attach⟩)
        addHandler source event handler)
      (callHost engine do
        note (.used ⟨sceneTwin, slotTwin, .attach⟩)
        addHandler source event handler) :=
  callHost_agrees engine (.bind_same (note_use_agrees scenes same _) fun _ =>
    changeObject_agrees source (·.attach event handler))

end ScriptBridge.Binding
