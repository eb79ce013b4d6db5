/-
This file takes the dynamic capability of objects step by step. Asking it is told;
reading its values leaves the world as it is, storing a value only changes it, and
methods go on as the calls they start.
-/

import ScriptBridge.Binding.Dynamic
import ScriptBridge.Proofs.BridgeSteps
import ScriptBridge.Proofs.HostSteps

namespace ScriptBridge.Binding

open Host Run Bridge

variable {steps : Conduct} [StepConduct steps]

/-! ### What is asked -/

section

variable {conduct : Conduct} [RunConduct conduct]

theorem capability_leaves (cell : CellId) : Leaves conduct (capability cell) := by
  unfold capability
  refine .bind (.readStore _) fun object => ?_
  split
  · exact .pure _
  · exact .pure _

theorem checkKey_leaves (dynamic : Dynamic) (key : String) :
    Leaves conduct (checkKey dynamic key) := by
  unfold checkKey
  split
  · exact .raise _
  · exact .pure _

theorem readDynamic_leaves (cell : CellId) (operation : Capability) (key : String) :
    Leaves conduct (readDynamic cell operation key) := by
  unfold readDynamic
  refine .bind (capability_leaves cell) fun dynamic => ?_
  split
  · exact .pure _
  · exact .bind (checkKey_leaves dynamic key) fun _ => .pure _

theorem keyText_leaves (keys : List Host.Value) : Leaves conduct (keyText keys) :=
  .bind (.valueTexts keys) fun _ => .pure _

end

theorem dynamicIn?_eq_some {store : Store} {proxy cell : CellId} {target : Host.Value}
    (found : dynamicIn? store proxy target = some cell) : target = .object cell := by
  unfold dynamicIn? at found
  split at found
  · split at found
    · cases found
    · obtain ⟨_, -, rfl⟩ := Option.map_eq_some_iff.mp found
      rfl
  · cases found

/-- Where a capability is asked, that is told first. -/
theorem outcome_dynamicOf? (proxy : CellId) (target : Host.Value) (request : Request)
    (world : World) :
    (dynamicOf? proxy target request).outcome world =
      (.ok (dynamicIn? world.store proxy target),
        match dynamicIn? world.store proxy target with
        | some object =>
          { world with history := .offered ⟨proxy, object, request⟩ :: world.history }
        | none => world) := by
  unfold dynamicOf?
  rw [outcome_bind_of_ok (outcome_readStore _ _)]
  cases dynamicIn? world.store proxy target <;> rfl

/-- Whatever is asked of a capability is asked of one that the proxy does not pass by. -/
theorem dynamicOf?_reaches (proxy : CellId) (target : Host.Value) (request : Request) :
    Leaves steps (dynamicOf? proxy target request) := by
  intro world
  rw [outcome_dynamicOf?]
  dsimp only
  cases found : dynamicIn? world.store proxy target with
  | none => exact RunConduct.refl world _
  | some object =>
    exact Step.conducted_of_same (.offer world (dynamicIn?_eq_some found ▸ found)) rfl rfl

/-- What is offered goes on as what is asked. -/
theorem offer_reaches {Answer : Type} (proxy : CellId) (target : Host.Value) (request : Request)
    (unasked : Answer) {ask : CellId → ScriptRun Answer}
    (asked : ∀ object, Leaves steps (ask object)) :
    Leaves steps (offer proxy target request unasked ask) := by
  unfold offer
  refine .bind (dynamicOf?_reaches proxy target request) fun found => ?_
  split
  · exact asked _
  · exact .pure _

theorem offeredNames_reaches (proxy : CellId) (target : Host.Value) :
    Leaves steps (offeredNames proxy target) :=
  offer_reaches proxy target _ _ fun _ => .readStore _

/-! ### What is changed -/

variable {conduct : Conduct} [ChangeConduct conduct]

theorem modifyDynamic_leaves (cell : CellId) (change : Named Host.Value → Named Host.Value) :
    Leaves conduct (modifyDynamic cell change) := by
  intro world
  unfold modifyDynamic
  rw [outcome_bind, outcome_readStore]
  dsimp only
  split
  · next found =>
    exact Change.conducted (.put world (.object found fun _ => List.Sublist.refl _))
      (.of_same rfl) (.put_object world found rfl) (.of_put rfl rfl rfl) (.of_same rfl)
  · exact RunConduct.refl world _

theorem writeDynamic_leaves (cell : CellId) (operation : Capability) (key : String)
    (value : Host.Value) : Leaves conduct (writeDynamic cell operation key value) := by
  unfold writeDynamic
  refine .bind (capability_leaves cell) fun dynamic => ?_
  split
  · exact .pure _
  · refine .bind (checkKey_leaves dynamic key) fun _ => ?_
    exact .bind (modifyDynamic_leaves cell _) fun _ => .pure _

theorem deleteDynamic_leaves (cell : CellId) (key : String) :
    Leaves conduct (deleteDynamic cell key) := by
  unfold deleteDynamic
  refine .bind (capability_leaves cell) fun dynamic => ?_
  split
  · exact .pure _
  · refine .bind (checkKey_leaves dynamic key) fun _ => ?_
    exact .bind (modifyDynamic_leaves cell _) fun _ => .pure _

/-! ### Offers -/

theorem askSet_reaches (engine : EngineId) (name : String) (value : Script.Value)
    (object : CellId) : Leaves steps (askSet engine name value object) :=
  .bind (.held (toHostValue_leaves engine value)) fun _ =>
    callHost_reaches engine (writeDynamic_leaves _ _ _ _)

theorem askSetIndex_reaches (engine : EngineId) (keys : List Script.Value) (value : Script.Value)
    (object : CellId) : Leaves steps (askSetIndex engine keys value object) := by
  unfold askSetIndex
  refine .bind (toHostValues_leaves engine keys) fun _ => .bind (keyText_leaves _) fun _ => ?_
  refine .bind (.held (toHostValue_leaves engine value)) fun _ => ?_
  exact callHost_reaches engine (writeDynamic_leaves _ _ _ _)

theorem offerSet_reaches (engine : EngineId) (proxy : CellId) (target : Host.Value) (name : String)
    (value : Script.Value) : Leaves steps (offerSet engine proxy target name value) :=
  offer_reaches proxy target _ _ (askSet_reaches engine name value)

theorem offerSetIndex_reaches (engine : EngineId) (proxy : CellId) (target : Host.Value)
    (keys : List Script.Value) (value : Script.Value) :
    Leaves steps (offerSetIndex engine proxy target keys value) :=
  offer_reaches proxy target _ _ (askSetIndex_reaches engine keys value)

variable {calls : Calls} (reach : calls.Reach steps)

include reach

theorem runDynamic_reaches (engine : EngineId) (body : Option Code) (arguments : List Host.Value) :
    Leaves steps (runDynamic calls engine body arguments) := by
  cases body with
  | none => exact .pure _
  | some code => exact .bind (runCode_reaches reach _ arguments code) fun _ => .pure _

theorem answer_reaches (engine : EngineId) (found : Option Host.Value) :
    Leaves steps (answer calls engine found) := by
  cases found with
  | none => exact .pure _
  | some value => exact .bind (toScript_reaches reach engine value .object) fun _ => .pure _

theorem askGet_reaches (engine : EngineId) (name : String) (object : CellId) :
    Leaves steps (askGet calls engine name object) :=
  .bind (.held (callHost_reaches engine (readDynamic_leaves _ _ _))) fun _ =>
    answer_reaches reach engine _

theorem askGetIndex_reaches (engine : EngineId) (keys : List Script.Value) (object : CellId) :
    Leaves steps (askGetIndex calls engine keys object) := by
  unfold askGetIndex
  refine .bind (toHostValues_leaves engine keys) fun _ => .bind (keyText_leaves _) fun _ => ?_
  refine .bind (.held (callHost_reaches engine (readDynamic_leaves _ _ _))) fun _ => ?_
  exact answer_reaches reach engine _

/-- A body of a capability is host code in a frame of its own. -/
theorem askBody_reaches (engine : EngineId) (body : Dynamic → Option Code)
    (arguments : List Script.Value) (object : CellId) :
    Leaves steps (askBody calls engine body arguments object) := by
  unfold askBody
  refine .bind (toHostValues_leaves engine arguments) fun _ => ?_
  refine .bind (.held (callHost_reaches engine (.bind (capability_leaves object) fun _ =>
    runDynamic_reaches reach engine _ _))) fun _ => ?_
  exact answer_reaches reach engine _

theorem offerGet_reaches (engine : EngineId) (proxy : CellId) (target : Host.Value)
    (name : String) : Leaves steps (offerGet calls engine proxy target name) :=
  offer_reaches proxy target _ _ (askGet_reaches reach engine name)

theorem offerGetIndex_reaches (engine : EngineId) (proxy : CellId) (target : Host.Value)
    (keys : List Script.Value) : Leaves steps (offerGetIndex calls engine proxy target keys) :=
  offer_reaches proxy target _ _ (askGetIndex_reaches reach engine keys)

theorem offerInvoke_reaches (engine : EngineId) (proxy : CellId) (target : Host.Value)
    (name : String) (arguments : List Script.Value) :
    Leaves steps (offerInvoke calls engine proxy target name arguments) :=
  offer_reaches proxy target _ _ (askBody_reaches reach engine _ arguments)

theorem offerCall_reaches (engine : EngineId) (proxy : CellId) (target : Host.Value)
    (arguments : List Script.Value) :
    Leaves steps (offerCall calls engine proxy target arguments) :=
  offer_reaches proxy target _ _ (askBody_reaches reach engine _ arguments)

end ScriptBridge.Binding
