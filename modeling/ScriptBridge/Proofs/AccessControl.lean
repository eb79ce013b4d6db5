/-
This file proves that script reaches no member that it may not reach. Whatever
operation runs, on whichever proxy and under whichever policies, the history that
it leaves tells every look and every use of a member. A look sees what the proxy
offers under the policy in force at that moment, and a use comes right after the
look at the proxy that it goes through: its member is one that the proxy offers,
script sees it, and may write it if it is written. The history tells the truth:
the bodies that are logged are those of the uses, one by one, and neither does a
field of a held struct change nor an object get a handler but by a use.
-/

import ScriptBridge.Proofs.CodeSteps

namespace ScriptBridge

open Host Binding

/-! ### What a history tells -/

/-- The policy of an engine once those that a history tells have been given. -/
def policyAfter (given : EngineId → Policy) : List MemberEvent → EngineId → Policy
  | [], engine => given engine
  | .governed governed policy :: earlier, engine =>
    if governed = engine then policy else policyAfter given earlier engine
  | _ :: earlier, engine => policyAfter given earlier engine

/-- Does the event tell that a handler was attached to an event of a cell? -/
def Binding.MemberEvent.attaches (cell : CellId) (name : String) : MemberEvent → Bool
  | .used use =>
    match use.action, use.scene.subject.self with
    | .attach, .object known => known == cell && use.slot.implementation.name == name
    | _, _ => false
  | _ => false

/-- The field at a place of the struct that a proxy holds. -/
def Store.heldField? (store : Store) (cell : CellId) (place : Nat) : Option Value :=
  match (store.proxy cell).target with
  | .boxed (.struct _ fields) => fields[place]?
  | _ => none

/-- What is so of a world that a run reaches, where nothing was noted or logged before. -/
structure World.IsGuarded (start world : World) : Prop where
  looked : ∀ {scene earlier}, .looked scene :: earlier <:+ world.history →
    scene.sight.policy =
        policyAfter (fun engine => (start.engine engine).policy) earlier scene.engine ∧
      ∃ moment, Reaches start moment ∧ Reaches moment world ∧ moment.history = earlier ∧
        scene.IsCurrent moment
  used : ∀ {use earlier}, .used use :: earlier <:+ world.history →
    use.IsPermitted ∧ earlier.head? = some (.looked use.scene)
  called : world.log.toList.filterMap LogEntry.label? =
    (world.history.filterMap MemberEvent.label?).reverse
  overwritten : ∀ {cell place former value}, start.store.heldField? cell place = some former →
    world.store.heldField? cell place = some value →
      value = former ∨ ∃ use, .used use ∈ world.history ∧ use.scene.proxy = cell ∧
        use.action = .writeField place
  attached : ∀ cell event handler,
    (world.store.handlersOf cell event).count handler ≤
      (start.store.handlersOf cell event).count handler +
        world.history.countP (MemberEvent.attaches cell event)

/-! ### Looks and uses -/

variable {start before after world : World}

/-- A step tells at most one event; what it looks at is current, and what it uses is permitted by
what was looked at last. -/
theorem Step.history (step : Step before after) :
    after.history = before.history ∨ ∃ event, after.history = event :: before.history ∧
      (∀ scene, event = .looked scene → scene.IsCurrent before) ∧
      ∀ use, event = .used use →
        use.IsPermitted ∧ before.history.head? = some (.looked use.scene) := by
  have used {use : MemberUse} (permitted : use.IsPermitted)
      (looked : before.history.head? = some (.looked use.scene)) :
      (∀ scene, MemberEvent.used use = .looked scene → scene.IsCurrent before) ∧
        ∀ other, MemberEvent.used use = .used other →
          other.IsPermitted ∧ before.history.head? = some (.looked other.scene) := by
    refine ⟨by rintro _ ⟨⟩, ?_⟩
    rintro _ ⟨⟩
    exact ⟨permitted, looked⟩
  cases step with
  | change change => exact .inl change.keeps.history
  | @govern engine _ policy =>
    exact .inr ⟨.governed engine policy, rfl, by rintro _ ⟨⟩, by rintro _ ⟨⟩⟩
  | @look scene current =>
    refine .inr ⟨.looked scene, rfl, ?_, by rintro _ ⟨⟩⟩
    rintro _ ⟨⟩
    exact current
  | @offer offer => exact .inr ⟨.offered offer, rfl, by rintro _ ⟨⟩, by rintro _ ⟨⟩⟩
  | use looked permitted => exact .inr ⟨_, rfl, used permitted looked⟩
  | call _ _ looked permitted => exact .inr ⟨_, rfl, used permitted looked⟩
  | overwrite _ looked permitted => exact .inr ⟨_, rfl, used permitted looked⟩
  | attach _ looked permitted => exact .inr ⟨_, rfl, used permitted looked⟩
  | modules => exact .inl rfl

/-- What a history told, it goes on telling. -/
theorem Step.suffix (step : Step before after) : before.history <:+ after.history := by
  rcases step.history with same | ⟨event, told, -⟩
  · exact ⟨[], same.symm⟩
  · exact ⟨[event], told.symm⟩

/-- Every look that a run tells was current at a moment of it. -/
theorem Reaches.looked (reaches : Reaches start world) (untold : start.history = []) {scene : Scene}
    {earlier : List MemberEvent} (told : .looked scene :: earlier <:+ world.history) :
    ∃ moment, Reaches start moment ∧ Reaches moment world ∧ moment.history = earlier ∧
      scene.IsCurrent moment := by
  induction reaches with
  | refl =>
    rw [untold, List.suffix_nil] at told
    cases told
  | @tail between after reached step inductionHypothesis =>
    have before (told : .looked scene :: earlier <:+ between.history) :
        ∃ moment, Reaches start moment ∧ Reaches moment after ∧ moment.history = earlier ∧
          scene.IsCurrent moment := by
      obtain ⟨moment, first, second, rest⟩ := inductionHypothesis told
      exact ⟨moment, first, second.tail step, rest⟩
    rcases step.history with same | ⟨event, added, current, -⟩
    · rw [same] at told
      exact before told
    · rw [added, List.suffix_cons_iff] at told
      rcases told with same | told
      · injection same with same rest
        exact ⟨between, reached, .single step, rest.symm, current scene same.symm⟩
      · exact before told

/-- Every use that a run tells is permitted by the look right before it. -/
theorem Reaches.used (reaches : Reaches start world) (untold : start.history = []) {use : MemberUse}
    {earlier : List MemberEvent} (told : .used use :: earlier <:+ world.history) :
    use.IsPermitted ∧ earlier.head? = some (.looked use.scene) := by
  induction reaches with
  | refl =>
    rw [untold, List.suffix_nil] at told
    cases told
  | tail _ step inductionHypothesis =>
    rcases step.history with same | ⟨event, added, -, permitted⟩
    · rw [same] at told
      exact inductionHypothesis told
    · rw [added, List.suffix_cons_iff] at told
      rcases told with same | told
      · injection same with same rest
        rw [rest]
        exact permitted use same.symm
      · exact inductionHypothesis told

/-! ### Policies -/

theorem Step.policy (step : Step before after) {given : EngineId → Policy}
    (known : ∀ engine, (before.engine engine).policy = policyAfter given before.history engine)
    (engine : EngineId) :
    (after.engine engine).policy = policyAfter given after.history engine := by
  cases step with
  | change change => rw [change.keeps.policy, change.keeps.history, known]
  | @govern governed inside policy =>
    unfold policyAfter
    split
    · next same =>
      subst same
      exact congrArg Engine.policy (World.engine_modifyEngine_self inside)
    · next other =>
      rw [← known]
      exact congrArg Engine.policy (World.engine_modifyEngine_of_ne other)
  | modules _ _ policy => exact (World.part_modifyEngine policy engine).trans (known engine)
  | _ => exact known engine

/-- The policies in force are those that the history tells, and where it tells none, those of the
start. -/
theorem Reaches.policy (reaches : Reaches start world) (untold : start.history = [])
    (engine : EngineId) : (world.engine engine).policy =
      policyAfter (fun engine => (start.engine engine).policy) world.history engine := by
  induction reaches generalizing engine with
  | refl =>
    rw [untold]
    rfl
  | tail _ step inductionHypothesis => exact step.policy inductionHypothesis engine

/-! ### Bodies -/

theorem Step.called (step : Step before after)
    (told : before.log.toList.filterMap LogEntry.label? =
      (before.history.filterMap MemberEvent.label?).reverse) :
    after.log.toList.filterMap LogEntry.label? =
      (after.history.filterMap MemberEvent.label?).reverse := by
  cases step with
  | change change => rw [change.keeps.labels, change.keeps.history, told]
  | govern => rw [List.filterMap_cons]; exact told
  | look => rw [List.filterMap_cons]; exact told
  | offer => rw [List.filterMap_cons]; exact told
  | @use use _ _ silent =>
    have event : (MemberEvent.used use).label? = none := silent
    rw [List.filterMap_cons, event]
    exact told
  | @call use _ _ _ _ _ labelled =>
    have event : (MemberEvent.used use).label? = some _ := labelled
    rw [List.filterMap_cons, event, Array.toList_push, List.filterMap_append, List.reverse_cons,
      told]
    rfl
  | @overwrite use _ _ _ _ _ _ writes =>
    have event : (MemberEvent.used use).label? = none := congrArg Action.label? writes
    rw [List.filterMap_cons, event]
    exact told
  | @attach use _ _ _ _ _ attaches =>
    have event : (MemberEvent.used use).label? = none := congrArg Action.label? attaches
    rw [List.filterMap_cons, event]
    exact told
  | modules => exact told

/-- The bodies that are logged are those of the uses that the history tells, one by one. -/
theorem Reaches.called (reaches : Reaches start world) (untold : start.history = [])
    (unlogged : start.log = #[]) : world.log.toList.filterMap LogEntry.label? =
      (world.history.filterMap MemberEvent.label?).reverse := by
  induction reaches with
  | refl =>
    rw [untold, unlogged]
    rfl
  | tail _ step inductionHypothesis => exact step.called inductionHypothesis

/-! ### Fields -/

namespace Store

variable {store other : Store} {cell : CellId} {place : Nat} {value : Value}

theorem heldField?_eq_some : store.heldField? cell place = some value ↔
    ∃ proxy type fields, store.get? cell = some (.proxy proxy) ∧
      proxy.target = .boxed (.struct type fields) ∧ fields[place]? = some value := by
  unfold heldField? proxy
  constructor
  · intro held
    split at held
    · next type fields boxed =>
      split at boxed
      · next proxy found => exact ⟨proxy, type, fields, found, boxed, held⟩
      · cases boxed
    · cases held
  · rintro ⟨proxy, type, fields, found, boxed, held⟩
    rw [found]
    dsimp only
    rw [boxed]
    exact held

end Store

theorem Step.size_le (step : Step before after) :
    before.store.cells.size ≤ after.store.cells.size := by
  cases step with
  | change change => exact change.keeps.size_le
  | overwrite => exact Nat.le_of_eq (Store.size_put _ _ _).symm
  | attach => exact Nat.le_of_eq (Store.size_put _ _ _).symm
  | _ => exact Nat.le_refl _

theorem Reaches.size_le (reaches : Reaches start world) :
    start.store.cells.size ≤ world.store.cells.size := by
  induction reaches with
  | refl => exact Nat.le_refl _
  | tail _ step inductionHypothesis => exact Nat.le_trans inductionHypothesis step.size_le

/-- What a step leaves in a field was there before, or a use wrote it. -/
theorem Step.overwritten (step : Step before after) {cell : CellId} {place : Nat} {value : Value}
    (inside : cell < before.store.cells.size)
    (held : after.store.heldField? cell place = some value) :
    before.store.heldField? cell place = some value ∨
      ∃ use, .used use ∈ after.history ∧ use.scene.proxy = cell ∧
        use.action = .writeField place := by
  obtain ⟨proxy, type, fields, found, boxed, item⟩ := Store.heldField?_eq_some.mp held
  cases step with
  | change change =>
    rcases change.keeps.cells found with same | ⟨outside, -⟩ | admits
    · exact .inl (Store.heldField?_eq_some.mpr ⟨proxy, type, fields, same, boxed, item⟩)
    · exact absurd inside (Nat.not_lt_of_le outside)
    · exact absurd rfl (admits.plain proxy)
  | @overwrite use written value formerType formerFields _ _ writes formerBoxed =>
    dsimp only at found
    rcases Store.get?_put found with same | ⟨rfl, made⟩
    · exact .inl (Store.heldField?_eq_some.mpr ⟨proxy, type, fields, same, boxed, item⟩)
    · have former := Store.get?_of_boxed formerBoxed
      cases made
      cases boxed
      by_cases same : written = place
      · subst same
        exact .inr ⟨use, List.mem_cons_self, rfl, writes⟩
      · rw [List.getElem?_set_ne same] at item
        exact .inl (Store.heldField?_eq_some.mpr ⟨_, _, _, former, formerBoxed, item⟩)
  | @attach use attached object handler =>
    dsimp only at found
    rcases Store.get?_put found with same | ⟨-, made⟩
    · exact .inl (Store.heldField?_eq_some.mpr ⟨proxy, type, fields, same, boxed, item⟩)
    · cases made
  | _ => exact .inl held

/-- A field of a held struct that a run changes was written by a use that it tells. -/
theorem Reaches.overwritten (reaches : Reaches start world) {cell : CellId} {place : Nat}
    {former value : Value} (held : start.store.heldField? cell place = some former)
    (left : world.store.heldField? cell place = some value) :
    value = former ∨ ∃ use, .used use ∈ world.history ∧ use.scene.proxy = cell ∧
      use.action = .writeField place := by
  obtain ⟨proxy, _, _, found, -⟩ := Store.heldField?_eq_some.mp held
  induction reaches generalizing value with
  | refl => exact .inl (Option.some.inj (left.symm.trans held))
  | tail reached step inductionHypothesis =>
    have inside := Nat.lt_of_lt_of_le (Store.lt_size_of_get? found) (Reaches.size_le reached)
    rcases step.overwritten inside left with same | use
    · rcases inductionHypothesis same with unchanged | ⟨use, told, rest⟩
      · exact .inl unchanged
      · exact .inr ⟨use, step.suffix.mem told, rest⟩
    · exact .inr use

/-! ### Handlers -/

theorem Store.handlersOf_put_proxy (store : Store) (cell other : CellId) (proxy : Proxy)
    (event : String) :
    List.Sublist ((store.put cell (.proxy proxy)).handlersOf other event)
      (store.handlersOf other event) := by
  unfold handlersOf
  by_cases here : cell = other
  · cases found : (store.put cell (.proxy proxy)).get? other with
    | none => exact List.nil_sublist _
    | some contents =>
      subst here
      rw [get?_put_self (size_put _ _ _ ▸ lt_size_of_get? found)] at found
      cases found
      exact List.nil_sublist _
  · rw [get?_put_of_ne here]

/-- A step adds a handler only with a use that attaches it. -/
theorem Step.attached (step : Step before after) (cell : CellId) (event : String)
    (handler : CellId) :
    (after.store.handlersOf cell event).count handler +
        before.history.countP (MemberEvent.attaches cell event) ≤
      (before.store.handlersOf cell event).count handler +
        after.history.countP (MemberEvent.attaches cell event) := by
  have told : before.history.countP (MemberEvent.attaches cell event) ≤
      after.history.countP (MemberEvent.attaches cell event) := step.suffix.sublist.countP_le
  cases step with
  | change change => exact Nat.add_le_add ((change.keeps.handlersOf cell event).count_le _) told
  | overwrite =>
    exact Nat.add_le_add ((Store.handlersOf_put_proxy _ _ cell _ event).count_le _) told
  | @attach use attached object added _ _ attaches self found =>
    by_cases here : attached = cell
    · subst here
      have inside := Store.lt_size_of_get? (Store.object?_eq_some.mp found)
      have left : (before.store.put attached
          (.object (object.attach use.slot.implementation.name added))).handlersOf attached event =
          (object.attach use.slot.implementation.name added).handlersOf event := by
        unfold Store.handlersOf
        rw [Store.get?_put_self inside]
        rfl
      dsimp only
      rw [left, HostObject.handlersOf_attach, Store.handlersOf_of_object? found]
      by_cases same : event = use.slot.implementation.name
      · subst same
        have counted : (MemberEvent.used use).attaches attached use.slot.implementation.name := by
          unfold MemberEvent.attaches
          dsimp only
          rw [attaches, self]
          simp only [beq_self_eq_true, Bool.and_self]
        have one : List.count handler [added] ≤ 1 := List.count_le_length
        rw [if_pos rfl, List.count_append, List.countP_cons_of_pos counted]
        omega
      · rw [if_neg same]
        exact Nat.add_le_add_left told _
    · have left : (before.store.put attached
          (.object (object.attach use.slot.implementation.name added))).handlersOf cell event =
          before.store.handlersOf cell event := by
        unfold Store.handlersOf
        rw [Store.get?_put_of_ne here]
      dsimp only
      rw [left]
      exact Nat.add_le_add_left told _
  | _ => exact Nat.add_le_add_left told _

/-- The handlers of an event grow by no more than the uses that attach to it. -/
theorem Reaches.attached (reaches : Reaches start world)
    (cell : CellId) (event : String) (handler : CellId) :
    (world.store.handlersOf cell event).count handler ≤
      (start.store.handlersOf cell event).count handler +
        world.history.countP (MemberEvent.attaches cell event) := by
  induction reaches with
  | refl => exact Nat.le_add_right _ _
  | tail _ step inductionHypothesis =>
    have added := step.attached cell event handler
    omega

/-! ### Runs -/

/-- A world that steps reach is guarded, where nothing was noted or logged before. -/
theorem Reaches.isGuarded (reaches : Reaches start world) (untold : start.history = [])
    (unlogged : start.log = #[]) : start.IsGuarded world where
  looked {scene earlier} told := by
    obtain ⟨moment, reached, onward, history, target, found, current⟩ :=
      Reaches.looked reaches untold told
    refine ⟨?_, moment, reached, onward, history, target, found, current⟩
    rw [← history, ← Reaches.policy reached untold, current]
    rfl
  used := Reaches.used reaches untold
  called := Reaches.called reaches untold unlogged
  overwritten := Reaches.overwritten reaches
  attached := Reaches.attached reaches

/-! ### Operations -/

/-- An operation of script on a proxy, on what was bound to one, or on any value. -/
inductive Operation
  | get (proxy : CellId) (name : String)
  | set (proxy : CellId) (name : String) (value : Script.Value)
  | invokeMember (proxy : CellId) (name : String) (arguments : List Script.Value)
  | invoke (proxy : CellId) (arguments : List Script.Value)
  | getIndex (proxy : CellId) (keys : List Script.Value)
  | setIndex (proxy : CellId) (keys : List Script.Value) (value : Script.Value)
  | setInvoke (proxy : CellId) (keys : List Script.Value) (value : Script.Value)
  | setInvokeMember (proxy : CellId) (name : String) (keys : List Script.Value)
      (value : Script.Value)
  | construct (proxy : CellId) (arguments : List Script.Value)
  | connect (member : BoundMember) (arguments : List Script.Value)
  | callBound (member : BoundMember) (arguments : List Script.Value)
  | invokeBound (member : BoundMember) (name : String) (arguments : List Script.Value)
  | call (callee : Script.Value) (arguments : List Script.Value)
  | assignThrough (callee : Script.Value) (keys : List Script.Value) (value : Script.Value)

/-- Carries out an operation for an engine. -/
def Operation.run (calls : Calls) (engine : EngineId) : Operation → ScriptRun Script.Value
  | .get proxy name => getMember calls engine proxy name
  | .set proxy name value => do
    setMember calls engine proxy name value
    return .undefined
  | .invokeMember proxy name arguments => Binding.invoke calls engine proxy name arguments
  | .invoke proxy arguments => callProxy calls engine proxy arguments
  | .getIndex proxy keys => Binding.getIndex calls engine proxy keys
  | .setIndex proxy keys value => do
    Binding.setIndex calls engine proxy keys value
    return .undefined
  | .setInvoke proxy keys value => do
    assignProxy calls engine proxy keys value
    return .undefined
  | .setInvokeMember proxy name keys value => do
    assignMember calls engine proxy name keys value
    return .undefined
  | .construct proxy arguments => Binding.construct calls engine proxy arguments
  | .connect member arguments => Binding.connect calls engine member arguments
  | .callBound member arguments => Binding.callBound calls engine member arguments
  | .invokeBound member name arguments => Binding.invokeBound calls engine member name arguments
  | .call callee arguments => callValue calls engine callee arguments
  | .assignThrough callee keys value => do
    Binding.assignThrough calls engine callee keys value
    return .undefined

theorem Operation.run_reaches {steps : World → World → Prop} [StepRelation steps] {calls : Calls}
    (reach : calls.Reach steps) (engine : EngineId) (operation : Operation) :
    Run.Leaves steps (operation.run calls engine) := by
  cases operation with
  | get proxy name => exact getMember_reaches reach engine proxy name
  | set proxy name value =>
    exact .bind (setMember_reaches reach engine proxy name value) fun _ => .pure _
  | invokeMember proxy name arguments => exact invoke_reaches reach engine proxy name arguments
  | invoke proxy arguments => exact callProxy_reaches reach engine proxy arguments
  | getIndex proxy keys => exact getIndex_reaches reach engine proxy keys
  | setIndex proxy keys value =>
    exact .bind (setIndex_reaches reach engine proxy keys value) fun _ => .pure _
  | setInvoke proxy keys value =>
    exact .bind (assignProxy_reaches reach engine proxy keys value) fun _ => .pure _
  | setInvokeMember proxy name keys value =>
    exact .bind (assignMember_reaches reach engine proxy name keys value) fun _ => .pure _
  | construct proxy arguments => exact construct_reaches reach engine proxy arguments
  | connect member arguments => exact connect_reaches reach engine member arguments
  | callBound member arguments => exact callBound_reaches reach engine member arguments
  | invokeBound member name arguments =>
    exact invokeBound_reaches reach engine member name arguments
  | call callee arguments => exact callValue_reaches reach engine callee arguments
  | assignThrough callee keys value =>
    exact .bind (assignThrough_reaches reach engine callee keys value) fun _ => .pure _

/-- Whatever operation an engine's script starts, in whichever world and however deep it goes,
every member that is used on the way is one that the proxy looked at right before it offers, that
script sees under the policy then in force and, where it is written, may write. -/
theorem uses_are_guarded (depth : Nat) (engine : EngineId) (operation : Operation)
    (world : World) :
    let start := { world with history := [], log := #[] }
    let run := operation.run (Script.startWithin depth) engine
    Reaches start (run.outcome start).2 ∧ start.IsGuarded (run.outcome start).2 := by
  dsimp only
  have reaches := Operation.run_reaches (Script.startWithin_reach depth) engine operation
    { world with history := [], log := #[] }
  exact ⟨reaches, reaches.isGuarded rfl rfl⟩

end ScriptBridge
