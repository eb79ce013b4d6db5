/-
This file takes reading and writing members step by step. An operation on a proxy
looks at it first; from then on it only changes the world until it uses a member
that it found in what it saw, and what it starts after that goes on by steps.
-/

import ScriptBridge.Binding.Member
import ScriptBridge.Proofs.DynamicSteps

namespace ScriptBridge.Binding

open Host Run Bridge

/-! ### Looking -/

section

variable {conduct : Conduct} [RunConduct conduct]

theorem target_leaves (proxy : CellId) : Leaves conduct (target proxy) :=
  .bind (.observe _) fun _ => .bind (.ofExcept _) fun _ => .hold _

/-- A proxy leads to its target, which is in use from then on. -/
theorem outcome_target_of_ok {world : World} {proxy : CellId} {value : Value}
    (leads : world.targetOf proxy = .ok value) :
    (target proxy).outcome world = (.ok value, world.holding value.cells) := by
  unfold target
  rw [outcome_bind_of_ok (outcome_observe _ _), leads, outcome_bind_of_ok (outcome_ofExcept_ok _ _)]
  rfl

/-- What follows is done with what the proxy stands for. -/
theorem target_bind_conducted {Next : Type} {world : World} {proxy : CellId}
    {next : Value → ScriptRun Next}
    (leaves : Leaves conduct (next (world.store.proxy proxy).value)) :
    conduct world (isShort ((target proxy >>= next).outcome world).1)
      ((target proxy >>= next).outcome world).2 := by
  cases reached : world.targetOf proxy with
  | error error =>
    have failed : (target proxy).outcome world = (.error (.raised error), world) := by
      unfold target
      rw [outcome_bind_of_ok (outcome_observe _ _), reached]
      rfl
    rw [outcome_bind, failed]
    exact RunConduct.refl world _
  | ok value =>
    rw [outcome_bind_of_ok (outcome_target_of_ok reached), ← (World.targetOf_eq_ok reached).1]
    exact RunConduct.trans (RunConduct.held _ (RunConduct.refl world _)) (leaves _)

theorem subjectOf_leaves (proxy : CellId) : Leaves conduct (subjectOf proxy) :=
  .bind (target_leaves proxy) fun _ => .readStore _

theorem sceneOf_leaves (engine : EngineId) (proxy : CellId) (subject : Subject) :
    Leaves conduct (sceneOf engine proxy subject) :=
  .observe _

end

variable {conduct : Conduct} [ChangeConduct conduct]
variable {steps : Conduct} [StepConduct steps]

/-- The subject of a proxy is that of the value it leads to; the value is in use from then on. -/
theorem outcome_subjectOf (proxy : CellId) (world : World) :
    (subjectOf proxy).outcome world =
      match world.targetOf proxy with
      | .ok value =>
        (.ok (subjectIn world.store value), world.holding value.cells)
      | .error error => (.error (.raised error), world) := by
  unfold subjectOf target
  show (((observe (·.targetOf proxy) >>= fun reached => ofExcept reached >>= hold) >>= fun current =>
    readStore (subjectIn · current)).outcome world) = _
  rw [outcome_bind, outcome_bind, outcome_observe]
  dsimp only
  cases world.targetOf proxy with
  | error error => rfl
  | ok value => rfl

/-- Looking at a proxy notes what it offers now, and fails where the proxy leads nowhere. -/
theorem outcome_look (engine : EngineId) (proxy : CellId) (world : World) :
    (look engine proxy).outcome world =
      match world.targetOf proxy with
      | .ok value =>
        (.ok (sceneIn world engine proxy (subjectIn world.store value)),
          { world.holding value.cells with
            history :=
              .looked (sceneIn world engine proxy (subjectIn world.store value)) :: world.history })
      | .error error => (.error (.raised error), world) := by
  unfold look
  rw [outcome_bind, outcome_subjectOf]
  cases world.targetOf proxy with
  | error error => rfl
  | ok value => rfl

/-- What follows a look starts from what was seen. -/
theorem look_bind {Next : Type} (engine : EngineId) (proxy : CellId)
    {next : Scene → ScriptRun Next}
    (second : ∀ scene, (next scene).ReachesFrom steps (justLooked scene)) :
    Leaves steps (look engine proxy >>= next) := by
  intro world
  rw [outcome_bind, outcome_look]
  cases reached : world.targetOf proxy with
  | error error => exact RunConduct.refl _ _
  | ok value =>
    have current : (sceneIn world engine proxy (subjectIn world.store value)).IsCurrent world :=
      ⟨value, reached, rfl⟩
    have looked : steps world false _ := (Step.look world current).conducted_of_same rfl rfl
    refine RunConduct.trans (RunConduct.held (world.holding value.cells).held looked) ?_
    exact second _ _ rfl

theorem access_of_sees {sight : Sight} {slot : Slot} (seen : sight.sees slot = true) :
    sight.access slot ≠ .hidden := by
  intro hidden
  unfold Sight.sees at seen
  rw [hidden] at seen
  exact nomatch seen

/-- What the scene finds under a name is offered and seen. -/
theorem mem_lookup {scene : Scene} {name : String} {slot : Slot}
    (member : slot ∈ (scene.lookup name).visible) :
    slot ∈ scene.slots ∧ scene.sight.access slot ≠ .hidden := by
  obtain ⟨offered, seen⟩ := List.mem_filter.mp member
  rw [Bool.and_eq_true] at seen
  exact ⟨offered, access_of_sees seen.1⟩

theorem mem_ofKind {scene : Scene} {name : String} {kind : MemberKind} {slot : Slot}
    (member : slot ∈ (scene.lookup name).ofKind kind) : slot ∈ (scene.lookup name).visible :=
  List.mem_of_mem_filter member

theorem access_of_mayWrite {sight : Sight} {slot : Slot} (may : sight.mayWrite slot = true) :
    sight.access slot = .full :=
  beq_iff_eq.mp may

/-- The slot is one that the scene offers and script sees. -/
def Scene.Shows (scene : Scene) (slot : Slot) : Prop :=
  (slot ∈ scene.slots ∨ slot ∈ scene.constructors) ∧ scene.sight.access slot ≠ .hidden

theorem shows_of_mem_lookup {scene : Scene} {name : String} {slot : Slot}
    (member : slot ∈ (scene.lookup name).visible) : scene.Shows slot :=
  ⟨.inl (mem_lookup member).1, (mem_lookup member).2⟩

/-- A slot that is shown may be used for what it offers, unless that is to write. -/
theorem Scene.Shows.isPermitted {scene : Scene} {slot : Slot} (shown : scene.Shows slot)
    {action : Action} (reads : action.isWrite = false)
    (own : action.isOf slot.implementation.implementation) :
    (MemberUse.mk scene slot action).IsPermitted where
  offered := shown.1
  visible := shown.2
  writable writes := nomatch reads.symm.trans writes
  own := own

/-- A slot that is shown and may be written may be used for what it offers. -/
theorem Scene.Shows.mayWrite {scene : Scene} {slot : Slot} (shown : scene.Shows slot)
    (may : scene.sight.mayWrite slot = true) {action : Action}
    (own : action.isOf slot.implementation.implementation) :
    (MemberUse.mk scene slot action).IsPermitted where
  offered := shown.1
  visible := shown.2
  writable _ := access_of_mayWrite may
  own := own

/-! ### Bodies -/

variable {calls : Calls}

/-- A body that may be used goes on as its code does. -/
theorem useBody_reachesFrom (reach : calls.Reach steps) {scene : Scene} {slot : Slot}
    {action : Body → Action} {body : Body}
    (permitted : (MemberUse.mk scene slot (action body)).IsPermitted)
    (labelled : (action body).label? = body.label?)
    (setting : Setting) (arguments : List Value) :
    (useBody calls scene slot action body setting arguments).ReachesFrom steps
      (justLooked scene) := by
  cases found : body.label? with
  | none =>
    rw [found] at labelled
    exact .use permitted labelled (Body.run_reaches reach setting body found arguments)
  | some label =>
    intro world looked
    rw [found] at labelled
    obtain ⟨statements, rfl⟩ : ∃ statements, body = .code (some label) statements := by
      cases body with
      | code known statements => exact ⟨statements, congrArg (Body.code · statements) found⟩
      | _ => cases found
    let noted := { world with
      history := .used ⟨scene, slot, action (.code (some label) statements)⟩ :: world.history }
    have called := Step.call world (arguments.map noted.shownHost)
      (setting.assigned.map noted.shownHost) looked permitted labelled
    exact RunConduct.trans (called.conducted_of_same rfl rfl)
      (runCode_reaches reach setting arguments statements _)

/-! ### Accessors -/

theorem readAccessor_reachesFrom (reach : calls.Reach steps) (engine : EngineId) {scene : Scene}
    {slot : Slot} {get : Body} (permitted : (MemberUse.mk scene slot (.read get)).IsPermitted)
    (keys : List Host.Value) :
    (readAccessor calls engine scene slot get keys).ReachesFrom steps (justLooked scene) :=
  callHost_reachesFrom engine
    (.bind (useBody_reachesFrom reach permitted rfl _ keys) fun _ => .pure _)

theorem writeAccessor_reachesFrom (reach : calls.Reach steps) (engine : EngineId) {scene : Scene}
    {slot : Slot} {set : Body} (permitted : (MemberUse.mk scene slot (.write set)).IsPermitted)
    (keys : List Host.Value) (value : Host.Value) :
    (writeAccessor calls engine scene slot set keys value).ReachesFrom steps (justLooked scene) :=
  callHost_reachesFrom engine
    (.bind (useBody_reachesFrom reach permitted rfl _ keys) fun _ => .pure _)

/-! ### Reading -/

theorem bound_leaves (proxy : CellId) (name : String) (kind : BoundKind) :
    Leaves conduct (bound proxy name kind) :=
  .bind (.create _ trivial rfl) fun _ => .pure _

/-- A field or property that is shown is read through what it offers. -/
theorem readData_reachesFrom (reach : calls.Reach steps) (engine : EngineId) {scene : Scene}
    {slot : Slot} (shown : scene.Shows slot) :
    (readData calls engine scene slot).ReachesFrom steps (justLooked scene) := by
  unfold readData
  dsimp only
  split
  · next get _ offers =>
    have permitted : (MemberUse.mk scene slot (.read get)).IsPermitted :=
      shown.isPermitted rfl (by rw [offers]; rfl)
    exact .bind (.held (readAccessor_reachesFrom reach engine permitted [])) fun _ =>
      toScript_reaches reach engine _ _
  · exact Leaves.reachesFrom (.pure _)
  · next place type fields offers _ =>
    have permitted : (MemberUse.mk scene slot (.readField place)).IsPermitted :=
      shown.isPermitted rfl (by rw [offers]; rfl)
    exact .use permitted rfl (toScript_reaches reach engine _ _)
  · exact .changes_bind (.typeText _) fun _ => .raise _
  · exact .raise _

theorem readSlot_reachesFrom (reach : calls.Reach steps) (engine : EngineId) {scene : Scene}
    {slot : Slot} (shown : scene.Shows slot) :
    (readSlot calls engine scene slot).ReachesFrom steps (justLooked scene) := by
  unfold readSlot
  refine .scope ?_
  dsimp only
  split
  · exact Leaves.reachesFrom (bound_leaves _ _ _)
  · exact Leaves.reachesFrom (bound_leaves _ _ _)
  · exact Leaves.reachesFrom (bound_leaves _ _ _)
  · exact Leaves.reachesFrom (.pure _)
  · exact readData_reachesFrom reach engine shown
  · exact readData_reachesFrom reach engine shown

theorem readOther_reaches (reach : calls.Reach steps) (engine : EngineId) (proxy : CellId)
    (subject : Subject) (name : String) :
    Leaves steps (readOther calls engine proxy subject name) := by
  have general : Leaves steps
      (if name == toStringName then bound proxy name .method else pure .undefined :
        ScriptRun Script.Value) := by
    split
    · exact bound_leaves _ _ _
    · exact .pure _
  unfold readOther
  refine .bind (.readStore _) fun store => ?_
  dsimp only
  split
  · split
    · exact toScript_reaches reach engine _ _
    · exact toScript_reaches reach engine _ _
    · exact general
  · split
    · exact .pure _
    · exact general
  · split
    · exact toScript_reaches reach engine _ _
    · exact general
  · exact general

/-- Reading a name among the members goes on by steps. -/
theorem getStatic_reaches (reach : calls.Reach steps) (engine : EngineId) (proxy : CellId)
    (name : String) : Leaves steps (getStatic calls engine proxy name) := by
  unfold getStatic
  refine look_bind engine proxy fun scene => ?_
  split
  · next slot rest found =>
    exact readSlot_reachesFrom reach engine (shows_of_mem_lookup (found ▸ List.mem_cons_self))
  · exact (readOther_reaches reach engine proxy scene.subject name).reachesFrom

/-- Reading a name goes on by steps. -/
theorem getMember_reaches (reach : calls.Reach steps) (engine : EngineId) (proxy : CellId)
    (name : String) : Leaves steps (getMember calls engine proxy name) := by
  unfold getMember
  refine .inScope _ (.bind (target_leaves proxy) fun current => ?_)
  refine .bind (offerGet_reaches reach engine proxy current name) fun offered => ?_
  split
  · exact .pure _
  · exact getStatic_reaches reach engine proxy name

/-! ### Writing -/

/-- A field of a boxed struct is replaced if it may be written. -/
theorem writeField_reachesFrom {scene : Scene} {slot : Slot} {place : Nat}
    (permitted : (MemberUse.mk scene slot (.writeField place)).IsPermitted) (name : String)
    (value : Host.Value) :
    (writeField scene slot name place value).ReachesFrom steps (justLooked scene) := by
  intro world looked
  unfold writeField
  rw [outcome_bind, outcome_readStore]
  dsimp only
  split
  · next type fields boxed =>
    split
    · exact (Step.overwrite world value looked permitted rfl boxed).conducted rfl
        (.of_put rfl rfl rfl)
        (.of_retarget (Store.proxy?_eq_some.mpr (Store.get?_of_boxed boxed)) rfl rfl rfl)
    · exact RunConduct.refl _ _
  · exact RunConduct.refl _ _

theorem writeSlot_reachesFrom (reach : calls.Reach steps) (engine : EngineId) {scene : Scene}
    {slot : Slot} (shown : scene.Shows slot) (may : scene.sight.mayWrite slot = true)
    (name : String) (value : Script.Value) :
    (writeSlot calls engine scene slot name value).ReachesFrom steps (justLooked scene) := by
  unfold writeSlot
  refine .changes_bind (converted_leaves engine value _) fun converted => ?_
  split
  · next set offers =>
    have permitted : (MemberUse.mk scene slot (.write set)).IsPermitted :=
      shown.mayWrite may (by rw [offers]; rfl)
    exact writeAccessor_reachesFrom reach engine permitted [] _
  · next place offers =>
    have permitted : (MemberUse.mk scene slot (.writeField place)).IsPermitted :=
      shown.mayWrite may (by rw [offers]; rfl)
    exact writeField_reachesFrom permitted name _
  · exact .raise _

theorem setSlot_reachesFrom (reach : calls.Reach steps) (engine : EngineId) (scene : Scene)
    (name : String) (value : Script.Value) :
    (setSlot calls engine scene name value).ReachesFrom steps (justLooked scene) := by
  unfold setSlot
  split
  · exact .raise _
  · next slot rest found =>
    split
    · exact .raise _
    · split
      · exact .raise _
      · next refused =>
        rw [Bool.or_eq_true, not_or, Bool.not_eq_true', Bool.not_eq_false] at refused
        have shown : scene.Shows slot := shows_of_mem_lookup (found ▸ List.mem_cons_self)
        exact writeSlot_reachesFrom reach engine shown refused.1 name value

theorem writeBox_leaves (engine : EngineId) (box : CellId) (value : Script.Value) :
    Leaves conduct (writeBox engine box value) :=
  .bind (.readStore _) fun _ =>
    .bind (converted_leaves engine value _) fun _ =>
      .put _ _ (fun _ => nofun) (fun _ => rfl) fun _ => rfl

/-- Writing a name among the members goes on by steps. -/
theorem setStatic_reaches (reach : calls.Reach steps) (engine : EngineId) (proxy : CellId)
    (name : String) (value : Script.Value) :
    Leaves steps (setStatic calls engine proxy name value) := by
  unfold setStatic
  refine look_bind engine proxy fun scene => ?_
  split
  · exact Leaves.reachesFrom (writeBox_leaves engine _ value)
  · exact setSlot_reachesFrom reach engine scene name value

/-- Writing a name goes on by steps. -/
theorem setMember_reaches (reach : calls.Reach steps) (engine : EngineId) (proxy : CellId)
    (name : String) (value : Script.Value) :
    Leaves steps (setMember calls engine proxy name value) := by
  unfold setMember
  refine .inScope _ (.bind (target_leaves proxy) fun current => ?_)
  refine .bind (offerSet_reaches engine proxy current name value) fun taken => ?_
  split
  · exact .pure _
  · exact setStatic_reaches reach engine proxy name value

end ScriptBridge.Binding
