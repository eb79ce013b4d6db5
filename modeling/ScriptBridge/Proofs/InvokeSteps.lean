/-
This file takes calls, indexing, assignment through calls and events step by step.
A hop that tunnels through a member looks at its proxy, uses the member and goes on
with what the member answered, which the calls take as they take any value.
-/

import ScriptBridge.Binding.Invoke
import ScriptBridge.Proofs.HelperSteps
import ScriptBridge.Proofs.Resting

namespace ScriptBridge.Binding

open Host Run Bridge Conversion

variable {conduct : Conduct} [ChangeConduct conduct] {calls : Calls}
variable {steps : Conduct} [StepConduct steps]

/-! ### Methods -/

theorem invokeSlot_reachesFrom (reach : calls.Reach steps) (engine : EngineId) {scene : Scene}
    {slot : Slot} (shown : scene.Shows slot) (prepared : Prepared)
    (arguments : List Script.Value) :
    (invokeSlot calls engine scene slot prepared arguments).ReachesFrom steps
      (justLooked scene) := by
  unfold invokeSlot
  split
  · next body offers => exact runBody_reachesFrom reach engine shown offers prepared
  · next number offers =>
    have permitted : (MemberUse.mk scene slot (.intrinsic number)).IsPermitted :=
      shown.isPermitted rfl (by rw [offers]; rfl)
    exact .use permitted rfl (runIntrinsic_reaches reach engine number arguments)
  · exact .raise _

/-- A slot of a kind that is found under a name is shown. -/
theorem shows_of_mem_ofKind {scene : Scene} {name : String} {kind : MemberKind} {slot : Slot}
    (member : slot ∈ (scene.lookup name).ofKind kind) : scene.Shows slot :=
  shows_of_mem_lookup (mem_ofKind member)

theorem invokeMethod_reachesFrom (reach : calls.Reach steps) (engine : EngineId) (scene : Scene)
    (name : String) (arguments : List Script.Value) :
    (invokeMethod calls engine scene name arguments).ReachesFrom steps (justLooked scene) := by
  unfold invokeMethod
  dsimp only
  refine .changes_bind_of_yields (.settle (resolve_leaves _ _ _ _ _)) fun settled yields => ?_
  split
  · next slot prepared =>
    have member : slot ∈ (scene.lookup name).ofKind .method :=
      mem_of_resolve_yields yields.of_settle
    exact invokeSlot_reachesFrom reach engine (shows_of_mem_ofKind member) prepared arguments
  · split
    · next getter found _ =>
      have shown : scene.Shows getter := shows_of_mem_ofKind (List.mem_of_find?_eq_some found)
      refine .bind (.held (invokeSlot_reachesFrom reach engine shown _ _)) fun value => ?_
      exact reach.callValue _ _ _
    · exact .raise _

/-- A delegate is called with arguments that are put back after the call. -/
theorem callDelegate_reaches (reach : calls.Reach steps) (engine : EngineId) (delegate : CellId)
    (arguments : List Script.Value) :
    Leaves steps (callDelegate calls engine delegate arguments) := by
  unfold callDelegate
  refine .bind .types fun table => .bind (.readStore _) fun key => ?_
  dsimp only
  split
  · exact .raise _
  · refine .bind (.settle (.grows (prepare_grows engine _ arguments))) fun settled => ?_
    split
    · exact .raise _
    · exact .raise _
    · refine .bind (.held (callHost_reaches engine (reach.invokeDelegate _ _))) fun answered => ?_
      obtain ⟨answer, left⟩ := answered
      refine .bind (writeBack_leaves _ left) fun _ => ?_
      split
      · exact .pure _
      · exact toScript_reaches reach engine _ _

/-! ### Indexers -/

theorem readIndexer_reachesFrom (reach : calls.Reach steps) (engine : EngineId) (scene : Scene)
    (name : String) (keys : List Script.Value) :
    (readIndexer calls engine scene name keys).ReachesFrom steps (justLooked scene) := by
  unfold readIndexer
  dsimp only
  refine .changes_bind_of_yields (resolve_leaves _ _ _ _ _) fun chosen yields => ?_
  have shown : scene.Shows chosen.1 := shows_of_mem_ofKind (mem_of_resolve_yields yields)
  obtain ⟨slot, prepared⟩ := chosen
  dsimp only
  split
  · next get _ offers =>
    have permitted : (MemberUse.mk scene slot (.read get)).IsPermitted :=
      shown.isPermitted rfl (by rw [offers]; rfl)
    exact .bind (.held (readAccessor_reachesFrom reach engine permitted _)) fun _ =>
      toScript_reaches reach engine _ _
  · exact .changes_bind (.typeText _) fun _ => .raise _

theorem writeIndexer_reachesFrom (reach : calls.Reach steps) (engine : EngineId) (scene : Scene)
    (name : String) (keys : List Script.Value) (value : Script.Value) :
    (writeIndexer calls engine scene name keys value).ReachesFrom steps (justLooked scene) := by
  unfold writeIndexer
  dsimp only
  refine .changes_bind_of_yields (resolve_leaves _ _ _ _ _) fun chosen yields => ?_
  have shown : scene.Shows chosen.1 := shows_of_mem_ofKind (mem_of_resolve_yields yields)
  obtain ⟨slot, prepared⟩ := chosen
  dsimp only
  split
  · next _ set may offers =>
    have permitted : (MemberUse.mk scene slot (.write set)).IsPermitted :=
      shown.mayWrite may (by rw [offers]; rfl)
    refine .changes_bind (converted_leaves engine value _) fun converted => ?_
    exact writeAccessor_reachesFrom reach engine permitted _ _
  · exact .changes_bind (.typeText _) fun _ => .raise _

theorem readElement_reaches (reach : calls.Reach steps) (engine : EngineId) (array : CellId)
    (key : Script.Value) : Leaves steps (readElement calls engine array key) := by
  unfold readElement
  refine .bind (arrayPlace_leaves key) fun place => .bind (.readStore _) fun items => ?_
  split
  · exact .bind (.readStore _) fun _ => toScript_reaches reach engine _ _
  · exact .raise _

theorem writeElement_leaves (engine : EngineId) (array : CellId) (key value : Script.Value) :
    Leaves conduct (writeElement engine array key value) := by
  unfold writeElement
  refine .bind (arrayPlace_leaves key) fun place => .bind (.readStore _) fun element => ?_
  refine .bind (converted_leaves engine value _) fun converted => ?_
  refine .bind (.readStore _) fun items => ?_
  split
  · exact .put _ _ (fun _ => nofun) (fun _ => rfl) fun _ => rfl
  · exact .raise _

/-- Reading at keys among the members goes on by steps. -/
theorem getIndexStatic_reaches (reach : calls.Reach steps) (engine : EngineId) (proxy : CellId)
    (current : Value) (keys : List Script.Value) :
    Leaves steps (getIndexStatic calls engine proxy current keys) := by
  unfold getIndexStatic
  refine look_bind engine proxy fun scene => ?_
  split
  · exact (readElement_reaches reach engine _ _).reachesFrom
  · split
    · exact readIndexer_reachesFrom reach engine scene _ _
    · exact (getMember_reaches reach engine proxy _).reachesFrom
    · exact .changes_bind (.typeText _) fun _ => .raise _

/-- Reading at keys goes on by steps. -/
theorem getIndex_reaches (reach : calls.Reach steps) (engine : EngineId) (proxy : CellId)
    (keys : List Script.Value) : Leaves steps (getIndex calls engine proxy keys) := by
  unfold getIndex
  refine .inScope _ (.bind (target_leaves proxy) fun current => ?_)
  refine .bind (offerGetIndex_reaches reach engine proxy current keys) fun offered => ?_
  split
  · exact .pure _
  · exact getIndexStatic_reaches reach engine proxy current keys

/-- Writing at keys among the members goes on by steps. -/
theorem setIndexStatic_reaches (reach : calls.Reach steps) (engine : EngineId) (proxy : CellId)
    (current : Value) (keys : List Script.Value) (value : Script.Value) :
    Leaves steps (setIndexStatic calls engine proxy current keys value) := by
  unfold setIndexStatic
  refine look_bind engine proxy fun scene => ?_
  split
  · exact Leaves.reachesFrom (writeElement_leaves engine _ _ value)
  · split
    · exact writeIndexer_reachesFrom reach engine scene _ _ value
    · exact (setMember_reaches reach engine proxy _ value).reachesFrom
    · exact .changes_bind (.typeText _) fun _ => .raise _

/-- Writing at keys goes on by steps. -/
theorem setIndex_reaches (reach : calls.Reach steps) (engine : EngineId) (proxy : CellId)
    (keys : List Script.Value) (value : Script.Value) :
    Leaves steps (setIndex calls engine proxy keys value) := by
  unfold setIndex
  refine .inScope _ (.bind (target_leaves proxy) fun current => ?_)
  refine .bind (offerSetIndex_reaches engine proxy current keys value) fun taken => ?_
  split
  · exact .pure _
  · exact setIndexStatic_reaches reach engine proxy current keys value

/-! ### Calls on proxies -/

theorem invokeOther_reaches (reach : calls.Reach steps) (engine : EngineId) (subject : Subject)
    (name : String) (arguments : List Script.Value) :
    Leaves steps (invokeOther calls engine subject name arguments) := by
  unfold invokeOther
  split
  · exact .bind .types fun _ => .pure _
  · exact .bind (.valueText _) fun _ => .pure _
  · exact callDelegate_reaches reach engine _ arguments
  · exact .raise _

theorem invokeFound_reachesFrom (reach : calls.Reach steps) (engine : EngineId) (scene : Scene)
    (name : String) (arguments : List Script.Value) :
    (invokeFound calls engine scene name arguments).ReachesFrom steps (justLooked scene) := by
  unfold invokeFound
  split
  · exact (invokeOther_reaches reach engine _ name arguments).reachesFrom
  · next first rest found =>
    have shown : scene.Shows first := shows_of_mem_lookup (found ▸ List.mem_cons_self)
    have read : (held (readSlot calls engine scene first) >>= fun value =>
        if arguments.isEmpty then pure value else calls.callValue engine value arguments :
          ScriptRun Script.Value).ReachesFrom steps (justLooked scene) := by
      refine .bind (.held (readSlot_reachesFrom reach engine shown)) fun value => ?_
      split
      · exact .pure _
      · exact reach.callValue _ _ _
    split
    · exact invokeMethod_reachesFrom reach engine scene name arguments
    · exact readIndexer_reachesFrom reach engine scene name arguments
    · exact read
    · exact read
    · exact .raise _
    · exact .raise _

/-- Calling a member by name goes on by steps. -/
theorem invokeMember_reaches (reach : calls.Reach steps) (engine : EngineId) (proxy : CellId)
    (name : String) (arguments : List Script.Value) :
    Leaves steps (invokeMember calls engine proxy name arguments) :=
  .inScope _ (look_bind engine proxy fun scene =>
    invokeFound_reachesFrom reach engine scene name arguments)

theorem invoke_reaches (reach : calls.Reach steps) (engine : EngineId) (proxy : CellId)
    (name : String) (arguments : List Script.Value) :
    Leaves steps (invoke calls engine proxy name arguments) := by
  unfold invoke
  refine .inScope _ (.bind (target_leaves proxy) fun current => ?_)
  refine .bind (offerInvoke_reaches reach engine proxy current name arguments) fun offered => ?_
  split
  · exact .pure _
  · exact invokeMember_reaches reach engine proxy name arguments

omit [ChangeConduct conduct] in
/-- The name of the default member is found without using a member. -/
theorem defaultMember?_leaves [RunConduct conduct] (engine : EngineId) (proxy : CellId)
    (subject : Subject) : Leaves conduct (defaultMember? engine proxy subject) := by
  unfold defaultMember?
  split
  · refine .bind .types fun table => ?_
    split
    · exact .pure _
    · exact .bind (sceneOf_leaves engine proxy _) fun _ => .pure _
  · exact .pure _

/-- Calling what a proxy leads to goes on by steps. -/
theorem callStatic_reaches (reach : calls.Reach steps) (engine : EngineId) (proxy : CellId)
    (current : Value) (arguments : List Script.Value) :
    Leaves steps (callStatic calls engine proxy current arguments) := by
  unfold callStatic
  refine .bind (subjectOf_leaves proxy) fun subject => ?_
  split
  · exact construct_reaches reach engine proxy arguments
  · exact callDelegate_reaches reach engine _ arguments
  · exact getIndex_reaches reach engine proxy _
  · exact .bind (.typeText _) fun _ => .raise _
  · refine .bind (defaultMember?_leaves engine proxy _) fun name => ?_
    split
    · exact invokeMember_reaches reach engine proxy _ arguments
    · exact .bind (.typeText _) fun _ => .raise _

/-- Calling a proxy goes on by steps. -/
theorem callProxy_reaches (reach : calls.Reach steps) (engine : EngineId) (proxy : CellId)
    (arguments : List Script.Value) : Leaves steps (callProxy calls engine proxy arguments) := by
  unfold callProxy
  refine .inScope _ (.bind (target_leaves proxy) fun current => ?_)
  refine .bind (offerCall_reaches reach engine proxy current arguments) fun offered => ?_
  split
  · exact .pure _
  · exact callStatic_reaches reach engine proxy current arguments

/-! ### Assignment through calls -/

theorem assignFound_reachesFrom (reach : calls.Reach steps) (engine : EngineId) (proxy : CellId)
    (scene : Scene) (name : String) (keys : List Script.Value) (value : Script.Value) :
    (assignFound calls engine proxy scene name keys value).ReachesFrom steps
      (justLooked scene) := by
  unfold assignFound
  dsimp only
  split
  · exact .raise _
  · next first rest found =>
    have shown : scene.Shows first := shows_of_mem_lookup (found ▸ List.mem_cons_self)
    have tunnel : (if keys.isEmpty then setMember calls engine proxy name value
        else do
          let inner ← held (readSlot calls engine scene first)
          calls.assignThrough engine inner keys value :
          ScriptRun Unit).ReachesFrom steps (justLooked scene) := by
      split
      · exact (setMember_reaches reach engine proxy name value).reachesFrom
      · refine .bind (.held (readSlot_reachesFrom reach engine shown)) fun inner => ?_
        exact reach.assignThrough _ _ _ _
    split
    · exact writeIndexer_reachesFrom reach engine scene name keys value
    · exact tunnel
    · exact tunnel
    · split
      · next getter getterFound =>
        have shown : scene.Shows getter :=
          shows_of_mem_ofKind (List.mem_of_find?_eq_some getterFound)
        refine .bind (.held (invokeSlot_reachesFrom reach engine shown _ _)) fun inner => ?_
        exact reach.assignThrough _ _ _ _
      · exact .raise _
    · exact .raise _

/-- Assigning through a call of a member goes on by steps. -/
theorem assignMember_reaches (reach : calls.Reach steps) (engine : EngineId) (proxy : CellId)
    (name : String) (keys : List Script.Value) (value : Script.Value) :
    Leaves steps (assignMember calls engine proxy name keys value) :=
  .inScope _ (look_bind engine proxy fun scene =>
    assignFound_reachesFrom reach engine proxy scene name keys value)

theorem assignProxy_reaches (reach : calls.Reach steps) (engine : EngineId) (proxy : CellId)
    (keys : List Script.Value) (value : Script.Value) :
    Leaves steps (assignProxy calls engine proxy keys value) := by
  unfold assignProxy
  refine .inScope _ (.bind (subjectOf_leaves proxy) fun subject => ?_)
  split
  · exact setIndex_reaches reach engine proxy keys value
  · refine .bind (defaultMember?_leaves engine proxy _) fun name => ?_
    split
    · exact assignMember_reaches reach engine proxy _ keys value
    · exact .bind (.typeText _) fun _ => .raise _
  · exact .raise _

/-- Assigning through a call of any value goes on by steps. -/
theorem assignThrough_reaches (reach : calls.Reach steps) (engine : EngineId)
    (callee : Script.Value) (keys : List Script.Value) (value : Script.Value) :
    Leaves steps (assignThrough calls engine callee keys value) := by
  have refuse : Leaves steps (do
      raise (.notSupported s!"cannot assign through {← describe callee}") : ScriptRun Unit) :=
    .bind (.describe _) fun _ => .raise _
  unfold assignThrough
  refine .inScope _ ?_
  dsimp only
  split
  · exact assignProxy_reaches reach engine _ keys value
  · refine .bind (.readStore _) fun member => ?_
    split
    · exact assignMember_reaches reach engine _ _ keys value
    · exact refuse
  · exact refuse

/-! ### Events -/

theorem handlerOf_leaves (engine : EngineId) (type : TypeRef) (arguments : List Script.Value) :
    Leaves conduct (handlerOf engine type arguments) := by
  unfold handlerOf
  split
  · refine .bind (converted_leaves engine _ type) fun converted => ?_
    split
    · exact .pure _
    · exact .bind .types fun _ => .bind (.typeText _) fun _ => .raise _
  · exact .raise _

/-- The host code that adds a handler to an event that is shown. -/
abbrev attaching (hooks : EventHooks) (scene : Scene) (slot : Slot) (handler : CellId) :
    HostRun Unit := do
  note (.used ⟨scene, slot, .attach⟩)
  hooks.add scene.subject.self slot.implementation.name handler

/-- A handler is added to the object that is the subject, if it is one that is there. -/
theorem outcome_attaching (scene : Scene) (slot : Slot) (handler : CellId) (world : World) :
    (∃ cell object, scene.subject.self = .object cell ∧ world.store.object? cell = some object ∧
      (attaching .kept scene slot handler).outcome world = (.ok (), { world with
        history := .used ⟨scene, slot, .attach⟩ :: world.history
        store := world.store.put cell
          (.object (object.attach slot.implementation.name handler)) })) ∨
      ∃ halt, (attaching .kept scene slot handler).outcome world = (.error halt, { world with
        history := .used ⟨scene, slot, .attach⟩ :: world.history }) := by
  let noted := { world with history := .used ⟨scene, slot, .attach⟩ :: world.history }
  have opened : (attaching .kept scene slot handler).outcome world =
      (addHandler scene.subject.self slot.implementation.name handler).outcome noted := rfl
  rw [opened]
  unfold addHandler
  rw [outcome_bind]
  obtain ⟨cell, object, self, found, ran⟩ | ⟨-, halt, ran⟩ :=
    outcome_stateOf scene.subject.self noted
  · rw [ran]
    exact .inl ⟨cell, object, self, found, rfl⟩
  · rw [ran]
    exact .inr ⟨halt, rfl⟩

/-- Adding a handler in a frame gives back the calls. -/
theorem attaching_balances (engine : EngineId) (scene : Scene) (slot : Slot) (handler : CellId)
    (bond : Connection) :
    Leaves Balances (do
      callHost engine (attaching .kept scene slot handler)
      create (.connection bond) : ScriptRun CellId) := by
  refine .bind (callHost_reaches engine fun world => ?_) fun _ _ =>
    (World.KeepsCalls.of_same rfl).balances
  rcases outcome_attaching scene slot handler world with
    ⟨cell, object, -, -, attached⟩ | ⟨halt, refused⟩
  · rw [attached]
    exact (World.KeepsCalls.of_same rfl).balances
  · rw [refused]
    exact (World.KeepsCalls.of_same rfl).balances

/-- The first part of connecting: the argument becomes a handler, which is added to the event, and
the connection is made. -/
def makeConnection (hooks : EventHooks) (engine : EngineId) (scene : Scene) (slot : Slot)
    (arguments : List Script.Value) : ScriptRun CellId := do
  let handler ← handlerOf engine slot.declaration.type arguments
  callHost engine (attaching hooks scene slot handler)
  create (.connection
    { type := Builtin.connection, source := scene.subject.self, handler,
      event := slot.implementation.name, connected := true })

/-- How the making of a connection ends once there is a handler: nothing is added, and it fails; or
the handler is added to the object that is the subject, and the connection is made. -/
inductive ConnectionMade (scene : Scene) (slot : Slot) (handler : CellId) (start : World) :
    Except (Halt ScriptError) CellId × World → Prop
  | refused {halt : Halt ScriptError} {after : World} (changes : Changes start after) :
      ConnectionMade scene slot handler start (.error halt, after)
  | unattached {halt : Halt ScriptError} {before after : World} (opens : Changes start before)
      (closes : Changes { before with
        history := .used ⟨scene, slot, .attach⟩ :: before.history } after) :
      ConnectionMade scene slot handler start (.error halt, after)
  | made {cell : CellId} {object : HostObject} {before between : World}
      (opens : Changes start before) (rests : start.Rests before)
      (self : scene.subject.self = .object cell) (found : before.store.object? cell = some object)
      (closes : Changes { before with
        history := .used ⟨scene, slot, .attach⟩ :: before.history
        store := before.store.put cell
          (.object (object.attach slot.implementation.name handler)) } between)
      (stays : World.Rests { before with
        history := .used ⟨scene, slot, .attach⟩ :: before.history
        store := before.store.put cell
          (.object (object.attach slot.implementation.name handler)) } between) :
      ConnectionMade scene slot handler start (.ok between.store.cells.size,
        { (between.create (.connection
          { type := Builtin.connection, source := .object cell, handler,
            event := slot.implementation.name, connected := true })).1 with
          held := between.store.cells.size :: between.held })

/-- A handler is added before its connection is made. -/
theorem attaching_ends (engine : EngineId) (scene : Scene) (slot : Slot) (handler : CellId)
    (world : World) :
    ConnectionMade scene slot handler world ((do
      callHost engine (attaching .kept scene slot handler)
      create (.connection
        { type := Builtin.connection, source := scene.subject.self, handler,
          event := slot.implementation.name, connected := true }) :
      ScriptRun CellId).outcome world) := by
  rw [outcome_bind]
  have framed := callHost_framed engine (attaching .kept scene slot handler) world
  generalize (callHost engine (attaching .kept scene slot handler)).outcome world = outcome
    at framed ⊢
  cases framed with
  | refused _ changes => exact .refused changes
  | @ended before left after result rests opens _ ran stays closes =>
    rcases outcome_attaching scene slot handler before with
      ⟨cell, object, self, found, attached⟩ | ⟨halt, refused⟩
    · cases attached.symm.trans ran
      rw [self]
      exact .made opens rests self found closes stays
    · cases refused.symm.trans ran
      obtain ⟨seen, fails⟩ := seenIn_error (hostFailure engine)
        { before with history := .used ⟨scene, slot, .attach⟩ :: before.history } halt
      rw [fails]
      exact .unattached opens closes

/-- Making a connection goes on by steps where a handler may be added. -/
theorem ConnectionMade.reaches {scene : Scene} {slot : Slot} {handler : CellId}
    {start world : World} {outcome : Except (Halt ScriptError) CellId × World}
    (ends : ConnectionMade scene slot handler world outcome)
    (permitted : (MemberUse.mk scene slot .attach).IsPermitted) (changes : Changes start world)
    (looked : justLooked scene world.history)
    (balances : Balances start (isShort outcome.1) outcome.2) :
    steps start (isShort outcome.1) outcome.2 := by
  have still {before : World} (opens : Changes world before) : justLooked scene before.history := by
    rw [opens.history]
    exact looked
  cases ends with
  | refused more => exact StepConduct.steps (changes.plainSteps.trans more.plainSteps) balances
  | @unattached _ before after opens closes =>
    have used : PlainSteps before { before with
        history := .used ⟨scene, slot, .attach⟩ :: before.history } :=
      .single ⟨.use before (still opens) permitted rfl, .of_same rfl, .of_same rfl,
        .of_same rfl rfl, .of_same rfl rfl⟩
    exact StepConduct.steps ((changes.plainSteps.trans opens.plainSteps).trans
      (used.trans closes.plainSteps)) balances
  | made opens _ self found closes _ =>
    refine RunConduct.held _ (StepConduct.connect ?_ (RunConduct.held _ balances))
    exact .connect _ (changes.trans opens) (still opens) permitted rfl self found closes

theorem makeConnection_reachesFrom (engine : EngineId) {scene : Scene} {slot : Slot}
    (permitted : (MemberUse.mk scene slot .attach).IsPermitted) (arguments : List Script.Value) :
    (makeConnection .kept engine scene slot arguments).ReachesFrom steps (justLooked scene) := by
  intro world looked
  have leaves : Leaves LevelChanges (handlerOf engine slot.declaration.type arguments) :=
    handlerOf_leaves engine slot.declaration.type arguments
  unfold makeConnection
  rw [outcome_bind]
  rcases ran : (handlerOf engine slot.declaration.type arguments).outcome world with
    ⟨halt | handler, ready⟩
  · exact (leaves.along ran).conducted
  · obtain ⟨changes, calls⟩ := leaves.along ran
    have still : justLooked scene ready.history := by
      rw [changes.history]
      exact looked
    exact (attaching_ends engine scene slot handler ready).reaches permitted changes still
      (RunConduct.trans calls.balances (attaching_balances engine scene slot handler _ ready))

/-- A connection that is made is given to script. -/
theorem connectThrough_eq (hooks : EventHooks) (calls : Calls) (engine : EngineId)
    (member : BoundMember) (arguments : List Script.Value) :
    connectThrough hooks calls engine member arguments = (scope do
      holdCells (member.proxy :: arguments.flatMap Script.Value.cells)
      let scene ← look engine member.proxy
      match (scene.lookup member.name).ofKind .event with
      | [] => raise (.missingMember member.name)
      | slot :: _ =>
        match slot.implementation.implementation with
        | .event => do
          let connection ← makeConnection hooks engine scene slot arguments
          toScript calls engine (.object connection) (.named Builtin.connection)
        | _ => raise (.notSupported s!"'{member.name}' is not an event")) := by
  unfold connectThrough makeConnection
  refine congrArg scope (bind_congr fun _ => bind_congr fun scene => ?_)
  dsimp only
  cases (scene.lookup member.name).ofKind .event with
  | nil => rfl
  | cons slot rest =>
    dsimp only
    cases slot.implementation.implementation with
    | event =>
      refine Eq.trans (bind_congr fun handler => ?_) (bind_assoc _ _ _).symm
      exact (bind_assoc _ _ _).symm
    | _ => rfl

/-- Attaching a handler goes on by steps. -/
theorem connect_reaches (reach : calls.Reach steps) (engine : EngineId) (member : BoundMember)
    (arguments : List Script.Value) : Leaves steps (connect calls engine member arguments) := by
  unfold connect
  rw [connectThrough_eq]
  refine .inScope _ (look_bind engine _ fun scene => ?_)
  split
  · exact .raise _
  · next slot rest found =>
    have shown : scene.Shows slot := shows_of_mem_ofKind (found ▸ List.mem_cons_self)
    split
    · next offers =>
      have permitted : (MemberUse.mk scene slot .attach).IsPermitted :=
        shown.isPermitted rfl (by rw [offers]; trivial)
      exact .bind (makeConnection_reachesFrom engine permitted arguments) fun _ =>
        toScript_reaches reach engine _ _
    · exact .raise _

/-! ### Bound members -/

theorem getBound_leaves (member : BoundMember) (name : String) :
    Leaves conduct (getBound member name) := by
  unfold getBound
  split
  · exact bound_leaves _ _ _
  · exact .pure _

/-- Calling a bound member goes on by steps, however the member was come by. -/
theorem callBound_reaches (reach : calls.Reach steps) (engine : EngineId) (member : BoundMember)
    (arguments : List Script.Value) : Leaves steps (callBound calls engine member arguments) := by
  unfold callBound
  split
  · exact invokeMember_reaches reach engine _ _ arguments
  · exact invokeMember_reaches reach engine _ _ arguments
  · exact invokeMember_reaches reach engine _ _ arguments
  · split
    · exact .bind (assignMember_reaches reach engine _ _ _ _) fun _ => .pure _
    · exact .raise _
  · exact .raise _
  · exact connect_reaches reach engine member arguments

theorem invokeBound_reaches (reach : calls.Reach steps) (engine : EngineId) (member : BoundMember)
    (name : String) (arguments : List Script.Value) :
    Leaves steps (invokeBound calls engine member name arguments) := by
  unfold invokeBound
  split
  · exact callBound_reaches reach engine _ arguments
  · exact .raise _

/-! ### Any value -/

theorem notCallable_leaves {Result : Type} (value : Script.Value) :
    Leaves conduct (notCallable value : ScriptRun Result) :=
  .bind (.describe _) fun _ => .raise _

/-- Calling any value goes on by steps. -/
theorem callValue_reaches (reach : calls.Reach steps) (engine : EngineId) (callee : Script.Value)
    (arguments : List Script.Value) : Leaves steps (callValue calls engine callee arguments) := by
  unfold callValue
  refine .inScope _ ?_
  split
  · exact reach.callFunction _ _ _
  · exact callProxy_reaches reach engine _ arguments
  · exact .bind (.readStore _) fun member => callBound_reaches reach engine member arguments
  · exact notCallable_leaves _

/-! ### Names -/

theorem memberNames_reaches (engine : EngineId) (proxy : CellId) :
    Leaves steps (memberNames engine proxy) := by
  unfold memberNames
  refine .scope (.bind (target_leaves proxy) fun current => ?_)
  refine .bind (offeredNames_reaches proxy current) fun offered => ?_
  exact .bind (subjectOf_leaves proxy) fun subject => .bind (sceneOf_leaves engine proxy subject)
    fun _ => .pure _

end ScriptBridge.Binding
