/-
This file takes construction and the helper functions step by step. Overload
resolution only makes the arguments ready, and answers with a candidate it was
given; the constructors among which it chooses are those that script sees.
-/

import ScriptBridge.Binding.Helper
import ScriptBridge.Proofs.MemberSteps
import ScriptBridge.Proofs.OverloadChoice

namespace ScriptBridge.Binding

open Host Run Bridge Conversion

variable {conduct : Conduct} [ChangeConduct conduct] {Failure : Type}
variable {steps : Conduct} [StepConduct steps]

/-! ### Overloads -/

theorem resolve_grows (engine : EngineId) (name : String) (candidates : List Slot)
    (declared : Nat) (arguments : List Script.Value) :
    Leaves Grows (resolve engine name candidates declared arguments) := by
  intro world
  rcases resolved : (resolve engine name candidates declared arguments).outcome world with
    ⟨halt | ⟨slot, prepared⟩, after⟩
  · rw [resolve_eq] at resolved
    split at resolved
    · cases resolved
      exact .refl
    · cases resolved
    · cases resolved
      exact .refl
  · obtain ⟨_, _, _, made, _⟩ := resolve_ok_iff.1 resolved
    have grows := prepare_grows engine slot.implementation.parameters arguments world
    rw [made] at grows
    exact grows

theorem resolve_leaves (engine : EngineId) (name : String) (candidates : List Slot)
    (declared : Nat) (arguments : List Script.Value) :
    Leaves conduct (resolve engine name candidates declared arguments) :=
  .grows (resolve_grows engine name candidates declared arguments)

/-- The overload chosen is one of the candidates. -/
theorem mem_of_resolve_yields {engine : EngineId} {name : String} {candidates : List Slot}
    {declared : Nat} {arguments : List Script.Value} {chosen : Slot × Prepared}
    (yields : (resolve engine name candidates declared arguments).Yields chosen) :
    chosen.1 ∈ candidates := by
  obtain ⟨world, after, resolved⟩ := yields
  obtain ⟨left, right, split, _⟩ := resolve_ok_iff.1 resolved
  rw [split]
  exact List.mem_append_right left List.mem_cons_self

/-- Arguments are put back one box after another. -/
theorem writeBack_leaves (prepared : Prepared) (arguments : List Host.Value) :
    Leaves conduct (writeBack prepared arguments : Run Failure Unit) := by
  intro world
  unfold writeBack
  show conduct world false { world with store := prepared.boxes.foldl _ world.store }
  generalize prepared.boxes = boxes
  induction boxes generalizing world with
  | nil => exact RunConduct.refl world _
  | cons entry rest inductionHypothesis =>
    obtain ⟨place, box⟩ := entry
    rw [List.foldl_cons]
    dsimp only
    cases arguments[place]? with
    | none => exact inductionHypothesis world
    | some value =>
      have put : Change world { world with store := world.store.setBox box value } :=
        .put world (.of_loose nofun rfl)
      exact RunConduct.trans
        (put.conducted (.of_same rfl) (.of_put rfl rfl rfl) (.of_put rfl rfl rfl) (.of_same rfl))
        (inductionHypothesis _)

/-! ### Bodies -/

variable {calls : Calls}

theorem runBody_reachesFrom (reach : calls.Reach steps) (engine : EngineId) {scene : Scene}
    {slot : Slot} {body : Body} (shown : scene.Shows slot)
    (offers : slot.implementation.implementation = .invoke body) (prepared : Prepared) :
    (runBody calls engine scene slot body prepared).ReachesFrom steps (justLooked scene) := by
  have permitted : (MemberUse.mk scene slot (.call body)).IsPermitted :=
    shown.isPermitted rfl (by rw [offers]; rfl)
  unfold runBody
  refine .bind (.held (callHost_reachesFrom engine
    (useBody_reachesFrom reach permitted rfl _ _))) fun answered => ?_
  obtain ⟨answer, left⟩ := answered
  refine .bind (writeBack_leaves prepared left) fun _ => ?_
  split
  · exact .pure _
  · exact toScript_reaches reach engine _ _

/-! ### Arrays -/

omit [ChangeConduct conduct] in
theorem arrayPlace_leaves [RunConduct conduct] (key : Script.Value) :
    Leaves conduct (arrayPlace key) := by
  unfold arrayPlace
  split
  · exact .pure _
  · exact .bind (.describe _) fun _ => .raise _

theorem newArray_leaves (element : TypeRef) (length : Nat) :
    Leaves conduct (newArray element length) := by
  unfold newArray
  split
  · exact .raise _
  · exact .bind .types fun _ => .create _ trivial rfl

/-! ### Construction -/

theorem constructDelegate_leaves (engine : EngineId) (key : TypeKey)
    (arguments : List Script.Value) : Leaves conduct (constructDelegate engine key arguments) := by
  unfold constructDelegate
  split
  · refine .bind (converting_leaves (.grows (delegateFor_grows _ _))) fun delegate => ?_
    exact .bind (proxyReference_leaves _ fun weak _ =>
      makes_of_apt (ProxyTarget.isApt_of_hasWeakForm weak)) fun _ => .pure _
  · dsimp only
    split
    · exact .bind (.describe _) fun _ => .bind .types fun _ => .raise _
    · exact .bind (.pure _) fun _ => .bind .types fun _ => .raise _

theorem constructNamed_reachesFrom (reach : calls.Reach steps) (engine : EngineId) (scene : Scene)
    (key : TypeKey) (arguments : List Script.Value) :
    (constructNamed calls engine scene key arguments).ReachesFrom steps (justLooked scene) := by
  unfold constructNamed
  dsimp only
  split
  · split
    · exact (toScript_reaches reach engine _ _).reachesFrom
    · exact .raise _
  · refine .changes_bind_of_yields (resolve_leaves _ _ _ _ _) fun chosen yields => ?_
    obtain ⟨slot, prepared⟩ := chosen
    obtain ⟨offered, seen⟩ := List.mem_filter.mp (mem_of_resolve_yields yields)
    have shown : scene.Shows slot := ⟨.inr offered, access_of_sees seen⟩
    dsimp only
    split
    · next body offers => exact runBody_reachesFrom reach engine shown offers prepared
    · exact .raise _

/-- Construction goes on by steps. -/
theorem construct_reaches (reach : calls.Reach steps) (engine : EngineId) (proxy : CellId)
    (arguments : List Script.Value) : Leaves steps (construct calls engine proxy arguments) := by
  unfold construct
  refine .inScope _ (look_bind engine proxy fun scene => ?_)
  dsimp only
  split
  · split
    · exact Leaves.reachesFrom (constructDelegate_leaves _ _ _)
    · exact constructNamed_reachesFrom reach engine scene _ arguments
  · split
    · refine .changes_bind (arrayPlace_leaves _) fun place => ?_
      refine .changes_bind (newArray_leaves _ _) fun array => ?_
      exact (toScript_reaches reach engine _ _).reachesFrom
    · exact .raise _
  · exact .raise _
  · exact .changes_bind (.typeText _) fun _ => .raise _

end ScriptBridge.Binding
