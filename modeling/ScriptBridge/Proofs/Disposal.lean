/-
This file proves what becomes of proxies when their engine is disposed. The engine
stays disposed and its proxies stay its own, whatever happens afterwards. So whoever
operates on such a proxy, lists its names, deletes through it or has it made anew is
told that it belongs to a disposed engine, before anything runs or changes; and a
conversion that is given one finds nothing behind it.
-/

import ScriptBridge.Proofs.CallForms
import ScriptBridge.Proofs.Moments
import ScriptBridge.Proofs.ProxyLives

namespace ScriptBridge

open Host Binding Bridge Run Conversion

/-! ### Refusals -/

/-- The error of using the proxy in a cell once its engine is disposed. -/
def disposedProxy (cell : CellId) : ScriptError :=
  .disposed s!"proxy {cell} belongs to a disposed engine"

/-- The run fails with that error, before it has done anything to the world. -/
def World.Refuses {Result : Type} (world : World) (cell : CellId) (run : ScriptRun Result) : Prop :=
  run.outcome world = (.error (.raised (disposedProxy cell)), world)

/-- What is bound looks at its proxy when it is called. An event is not called, and setting at keys
takes at least the value. -/
def BoundMember.Looks (member : BoundMember) (arguments : List Script.Value) : Prop :=
  match member.kind with
  | .event => False
  | .indexerSet => arguments ≠ []
  | _ => True

/-- The operation looks at the proxy in a cell first of all. -/
def Operation.LooksAt (world : World) (cell : CellId) : Operation → Prop
  | .get proxy _ | .set proxy _ _ | .invokeMember proxy _ _ | .invoke proxy _ | .getIndex proxy _
  | .setIndex proxy _ _ | .setInvoke proxy _ _ | .setInvokeMember proxy _ _ _
  | .construct proxy _ | .call (.proxy proxy) _ | .assignThrough (.proxy proxy) _ _ => proxy = cell
  | .connect member _ => member.proxy = cell
  | .callBound member arguments => member.proxy = cell ∧ member.Looks arguments
  | .invokeBound member name arguments =>
    member.proxy = cell ∧
      ∃ kind, BoundKind.inner? member.kind name = some kind ∧
        { member with kind }.Looks arguments
  | .call (.member handle) arguments =>
    (world.store.member handle).proxy = cell ∧ (world.store.member handle).Looks arguments
  | .assignThrough (.member handle) _ _ =>
    (world.store.member handle).proxy = cell ∧
      ((world.store.member handle).kind = .indexer ∨ (world.store.member handle).kind = .method)
  | _ => False

/-- What a conversion makes of a proxy that leads nowhere: null where the target takes any value,
and else a failure. -/
def World.convertNothing (world : World) : TypeRef → Except (Halt ConversionError) Converted
  | .nullable inner => world.convertNothing inner
  | .object => .ok ⟨.null, .widening, boxPenalty .object⟩
  | .dynamic => .ok ⟨.null, .widening, boxPenalty .dynamic⟩
  | target =>
    .error (.raised (.incompatible "disposed host object" (world.store.types.display target)))

/-- Nobody reaches what the proxy in the cell stood for. Who looks at the proxy is refused; a
conversion finds nothing; neither runs or changes anything. -/
structure World.IsInvalid (world : World) (cell : CellId) : Prop where
  operations : ∀ (calls : Calls) (engine : EngineId) (operation : Operation),
    operation.LooksAt world cell → world.Refuses cell (operation.run calls engine)
  names : ∀ engine, world.Refuses cell (memberNames engine cell)
  text : ∀ (calls : Calls) (engine : EngineId),
    world.Refuses cell (Script.textOf calls engine (.proxy cell))
  deletion : ∀ (calls : Calls) (engine : EngineId) (name : String) (rest : List Script.Value),
    world.Refuses cell (runHelper calls engine .delete (.proxy cell :: .string name :: rest))
  undynamic : (∀ type, (world.store.proxy cell).target ≠ .type type) →
    ∀ (calls : Calls) (engine : EngineId) (rest : List Script.Value),
      world.Refuses cell (runHelper calls engine .toStatic (.proxy cell :: rest))
  instances : ∀ type, (world.store.proxy cell).target = .type type →
    ∀ (calls : Calls) (engine : EngineId) (arguments : List Script.Value),
      world.Refuses cell (runHelper calls engine .newObject (.proxy cell :: arguments)) ∧
        world.Refuses cell (Script.constructValue calls engine (.proxy cell) arguments)
  /-- It is not made anew for another engine. -/
  adoption : ∀ value, (world.store.proxy cell).target = .reference value →
    ∀ engine, engine ≠ (world.store.proxy cell).engine →
      world.Refuses cell (scope (adopt engine (.proxy cell))) ∧
        ∀ name, world.Refuses cell (Script.writeGlobal engine name (.proxy cell))
  untyped : ∀ engine,
    (toHostValue engine (.proxy cell) : ScriptRun Value).outcome world = (.ok .null, world)
  typed : ∀ engine target,
    (toHost engine (.proxy cell) target).outcome world = (world.convertNothing target, world)

namespace World

variable {Result Next : Type} {world : World} {cell : CellId} {calls : Calls} {engine : EngineId}

theorem Refuses.bind {run : ScriptRun Result} (refuses : world.Refuses cell run)
    (next : Result → ScriptRun Next) : world.Refuses cell (run >>= next) :=
  outcome_bind_of_error refuses

theorem Refuses.scope {run : ScriptRun Result} (refuses : world.Refuses cell run) :
    world.Refuses cell (Run.scope run) := by
  unfold Refuses at *
  rw [outcome_scope, refuses]

/-- What a run in a scope takes into use makes no difference. -/
theorem Refuses.scope_holding {cells : List CellId} {run : ScriptRun Result}
    (refuses : (world.holding cells).Refuses cell run) :
    world.Refuses cell (Run.scope (do holdCells cells; run)) := by
  unfold Refuses at *
  rw [outcome_scope, outcome_bind_of_ok (outcome_holdCells _ _), refuses]
  rfl

section

variable (lost : world.targetOf cell = .error (disposedProxy cell))
include lost

theorem refuses_callBound {member : BoundMember} {arguments : List Script.Value}
    (own : member.proxy = cell) (looks : member.Looks arguments) :
    world.Refuses cell (Binding.callBound calls engine member arguments) := by
  subst own
  unfold Binding.callBound
  unfold BoundMember.Looks at looks
  cases kind : member.kind with
  | method | indexer | indexerGet => exact outcome_invokeMember_of_error lost arguments
  | indexerSet =>
    rw [kind] at looks
    dsimp only at looks ⊢
    rw [List.getLast?_eq_some_getLast looks]
    exact Refuses.bind (outcome_assignMember_of_error lost _ _) _
  | event =>
    rw [kind] at looks
    exact looks.elim
  | eventConnect => exact outcome_scope_of_error (outcome_look_of_error lost)

/-- Whatever looks at a lost proxy is refused. -/
theorem refuses_operation {operation : Operation} (looks : operation.LooksAt world cell) :
    world.Refuses cell (operation.run calls engine) := by
  cases operation with
  | get proxy name =>
    subst looks
    exact outcome_scope_of_error (outcome_target_of_error lost)
  | set proxy name value =>
    subst looks
    exact Refuses.bind (outcome_scope_of_error (outcome_target_of_error lost)) _
  | invokeMember proxy name arguments =>
    subst looks
    exact outcome_invoke_of_error lost arguments
  | invoke proxy arguments =>
    subst looks
    exact outcome_callProxy_of_error lost arguments
  | getIndex proxy keys =>
    subst looks
    exact outcome_scope_of_error (outcome_target_of_error lost)
  | setIndex proxy keys value =>
    subst looks
    exact Refuses.bind (outcome_scope_of_error (outcome_target_of_error lost)) _
  | setInvoke proxy keys value =>
    subst looks
    exact Refuses.bind (outcome_assignProxy_of_error lost keys value) _
  | setInvokeMember proxy name keys value =>
    subst looks
    exact Refuses.bind (outcome_assignMember_of_error lost keys value) _
  | construct proxy arguments =>
    subst looks
    exact outcome_scope_of_error (outcome_look_of_error lost)
  | connect member arguments =>
    subst looks
    exact outcome_scope_of_error (outcome_look_of_error lost)
  | callBound member arguments => exact refuses_callBound lost looks.1 looks.2
  | invokeBound member name arguments =>
    obtain ⟨own, kind, inner, looks⟩ := looks
    show world.Refuses cell (Binding.invokeBound calls engine member name arguments)
    unfold Binding.invokeBound
    rw [inner]
    exact refuses_callBound lost own looks
  | call callee arguments =>
    show world.Refuses cell (callValue calls engine callee arguments)
    unfold callValue
    refine Refuses.scope_holding ?_
    have lost : (world.holding (callee.cells ++ arguments.flatMap Script.Value.cells)).targetOf
        cell = .error (disposedProxy cell) := lost
    cases callee with
    | proxy proxy =>
      cases looks
      exact outcome_callProxy_of_error lost arguments
    | member handle => exact refuses_callBound lost looks.1 looks.2
    | _ => exact looks.elim
  | assignThrough callee keys value =>
    refine Refuses.bind ?_ _
    unfold Binding.assignThrough
    refine Refuses.scope_holding ?_
    have lost : (world.holding callee.cells).targetOf cell = .error (disposedProxy cell) := lost
    cases callee with
    | proxy proxy =>
      cases looks
      exact outcome_assignProxy_of_error lost keys value
    | member handle =>
      obtain ⟨own, assignable⟩ := looks
      dsimp only
      unfold Refuses
      rw [outcome_bind_of_ok (outcome_readStore _ _)]
      show Run.outcome (if ((world.store.member handle).kind == .indexer ||
        (world.store.member handle).kind == .method) = true then _ else _) _ = _
      rw [if_pos (by rcases assignable with is | is <;> rw [is] <;> rfl)]
      subst own
      exact outcome_assignMember_of_error lost keys value
    | _ => exact looks.elim

theorem refuses_memberNames : world.Refuses cell (memberNames engine cell) :=
  Refuses.scope (Refuses.bind (outcome_target_of_error lost) _)

theorem refuses_textOf : world.Refuses cell (Script.textOf calls engine (.proxy cell)) := by
  unfold Script.textOf
  refine Refuses.scope_holding (Refuses.bind ?_ _)
  have lost : (world.holding [cell]).targetOf cell = .error (disposedProxy cell) := lost
  exact outcome_invoke_of_error lost []

theorem refuses_deleteName (name : String) :
    world.Refuses cell (deleteName engine (.proxy cell) (.string name)) := by
  have read : (textArgument (.string name)).outcome world = (.ok name, world) := rfl
  unfold deleteName Refuses
  rw [outcome_bind_of_ok read]
  exact Refuses.bind (outcome_target_of_error lost) _

/-- Only a type is seen without its dynamic capability as it is. -/
theorem refuses_withoutDynamic (object : ∀ type, (world.store.proxy cell).target ≠ .type type) :
    world.Refuses cell (withoutDynamic engine (.proxy cell)) := by
  unfold withoutDynamic Refuses
  dsimp only
  rw [outcome_bind_of_ok (outcome_readStore _ _)]
  cases stands : (world.store.proxy cell).target with
  | type type => exact absurd stands (object type)
  | boxed value => exact Refuses.bind (outcome_target_of_error lost) _
  | reference value => exact Refuses.bind (outcome_target_of_error lost) _

theorem refuses_construct (arguments : List Script.Value) :
    world.Refuses cell (construct calls engine cell arguments) :=
  outcome_scope_of_error (outcome_look_of_error lost)

omit lost in
theorem outcome_handledType? {type : TypeRef}
    (handle : (world.store.proxy cell).target = .type type) :
    (handledType? (.proxy cell)).outcome world = (.ok (some type), world) := by
  unfold handledType?
  dsimp only
  rw [outcome_bind_of_ok (outcome_readStore _ _), handle]
  rfl

theorem refuses_makeObject {type : TypeRef} (handle : (world.store.proxy cell).target = .type type)
    (arguments : List Script.Value) :
    world.Refuses cell (makeObject calls engine (.proxy cell :: arguments)) := by
  unfold makeObject Refuses
  dsimp only
  rw [outcome_bind_of_ok (outcome_handledType? handle)]
  exact refuses_construct lost arguments

theorem refuses_constructValue {type : TypeRef}
    (handle : (world.store.proxy cell).target = .type type) (arguments : List Script.Value) :
    world.Refuses cell (Script.constructValue calls engine (.proxy cell) arguments) := by
  unfold Script.constructValue Refuses
  rw [outcome_bind_of_ok (outcome_handledType? handle)]
  exact refuses_construct lost arguments

/-- Another engine asks the proxy for its target. -/
theorem outcome_adopt_of_lost {value : Value}
    (stands : (world.store.proxy cell).target = .reference value)
    (foreign : engine ≠ (world.store.proxy cell).engine) :
    (adopt engine (.proxy cell)).outcome world =
      (.error (.raised (disposedProxy cell)), world.holding [cell]) := by
  have other : (((world.holding [cell]).store.proxy cell).engine == engine) = false :=
    beq_eq_false_iff_ne.mpr foreign.symm
  have stands : ((world.holding [cell]).store.proxy cell).target = .reference value := stands
  have lost : (world.holding [cell]).targetOf cell = .error (disposedProxy cell) := lost
  unfold adopt
  rw [outcome_bind_of_ok (outcome_holdCells _ _)]
  dsimp only [Script.Value.cells]
  rw [outcome_bind_of_ok (outcome_readStore _ _), other, if_neg Bool.false_ne_true, stands]
  dsimp only
  rw [outcome_bind_of_ok (outcome_observe _ _), lost]
  rfl

theorem refuses_adopt {value : Value} (stands : (world.store.proxy cell).target = .reference value)
    (foreign : engine ≠ (world.store.proxy cell).engine) :
    world.Refuses cell (Run.scope (adopt engine (.proxy cell))) := by
  unfold Refuses
  rw [outcome_scope, outcome_adopt_of_lost lost stands foreign]
  rfl

theorem refuses_writeGlobal {value : Value}
    (stands : (world.store.proxy cell).target = .reference value)
    (foreign : engine ≠ (world.store.proxy cell).engine) (name : String) :
    world.Refuses cell (Script.writeGlobal engine name (.proxy cell)) := by
  unfold Script.writeGlobal Refuses
  rw [outcome_scope, outcome_bind_of_error (outcome_adopt_of_lost lost stands foreign)]
  rfl

theorem describe_of_lost : world.describe (.proxy cell) = "disposed host object" := by
  unfold World.describe
  dsimp only
  rw [lost]

/-- For an untyped target there is nothing behind a lost proxy. -/
theorem outcome_toHostValue_of_lost {Failure : Type} :
    (toHostValue engine (.proxy cell) : Run Failure Value).outcome world = (.ok .null, world) := by
  unfold toHostValue
  rw [outcome_bind_of_ok (outcome_observe _ _), lost]
  rfl

/-- A declared target takes null for a lost proxy where it takes any value, and else nothing. -/
theorem outcome_toHost_of_lost (target : TypeRef) :
    (toHost engine (.proxy cell) target).outcome world = (world.convertNothing target, world) := by
  have looked : (Run.held (boxedValue? (.proxy cell)) :
      ConversionRun (Option Value)).outcome world = (.ok none, world) := by
    show (Except.ok (world.targetOf cell).toOption,
      world.holding (HoldsCells.cells (world.targetOf cell).toOption)) = _
    rw [lost]
    rfl
  have refused (target : TypeRef) :
      (incompatible (.proxy cell) target : ConversionRun Converted).outcome world =
        (.error (.raised (.incompatible "disposed host object"
          (world.store.types.display target))), world) := by
    rw [← describe_of_lost lost]
    rfl
  induction target with
  | nullable inner inductionHypothesis =>
    unfold toHost
    exact (outcome_bind_of_ok looked).trans inductionHypothesis
  | object | dynamic =>
    unfold toHost
    exact (outcome_bind_of_ok looked).trans
      (outcome_bind_of_ok (outcome_toHostValue_of_lost lost))
  | _ =>
    unfold toHost
    exact (outcome_bind_of_ok looked).trans (refused _)

theorem isInvalid_of_lost : world.IsInvalid cell where
  operations _ _ _ looks := refuses_operation lost looks
  names _ := refuses_memberNames lost
  text _ _ := refuses_textOf lost
  deletion _ _ name _ := refuses_deleteName lost name
  undynamic object _ _ _ := refuses_withoutDynamic lost object
  instances _ handle _ _ arguments :=
    ⟨refuses_makeObject lost handle arguments, refuses_constructValue lost handle arguments⟩
  adoption _ stands _ foreign :=
    ⟨refuses_adopt lost stands foreign, fun name => refuses_writeGlobal lost stands foreign name⟩
  untyped _ := outcome_toHostValue_of_lost lost
  typed _ target := outcome_toHost_of_lost lost target

end

end World

/-! ### Disposal -/

/-- However a world goes on after a proxy was made and its engine was disposed, at any moment of any
run, the proxy is invalid for as long as there is one. -/
theorem disposal_invalidates_proxies {depth : Nat} {made disposed later : World} {cell : CellId}
    {proxy now : Proxy} (known : made.store.proxy? cell = some proxy)
    (goesOn : World.Later (Script.startWithin depth) made disposed)
    (disposal : (disposed.engine proxy.engine).isDisposed = true)
    (afterwards : World.Later (Script.startWithin depth) disposed later)
    (living : later.store.proxy? cell = some now) : later.IsInvalid cell := by
  have start := goesOn.endures
  have rest := afterwards.endures
  have inside : cell < made.store.cells.size := Store.lt_size_of_proxy? known
  obtain ⟨between, still, after⟩ :=
    rest.proxies (Nat.lt_of_lt_of_le inside start.size_le) living
  obtain ⟨was, first, before⟩ := start.proxies inside still
  rw [known] at first
  cases first
  rw [before.trans after] at disposal
  exact World.isInvalid_of_lost
    (World.targetOf_disposed (rest.disposed _ disposal) ⟨Store.proxy?_eq_some.mp living, rfl⟩)

/-- The world of two engines, where a box of the first is in use. -/
def boxInUse : World :=
  let engines : World := { engines := #[Engine.new "main" {} none, Engine.new "other" {} none] }
  { (engines.create (.proxy ⟨0, .boxed (.bool true), none, .none⟩)).1 with held := [0] }

/-- A box outlives its engine, and a sweep of the other one, and is invalid then. -/
theorem disposal_invalidates_proxies_box :
    let disposed := boxInUse.modifyEngine 0 Engine.dispose
    let later := ((settleEngine 1 true).outcome disposed).2
    (boxInUse.store.proxy? 0).isSome = true ∧ (disposed.engine 0).isDisposed = true ∧
      (later.store.proxy? 0).isSome = true ∧ later.IsInvalid 0 := by
  intro disposed later
  have goesOn : World.Later (Script.startWithin 0) boxInUse disposed :=
    .single (.dispose boxInUse 0)
  have afterwards : World.Later (Script.startWithin 0) disposed later :=
    .single (.settle disposed 1 true)
  have known : boxInUse.store.proxy? 0 = some ⟨0, .boxed (.bool true), none, .none⟩ := rfl
  have living : (later.store.proxy? 0).isSome = true := by decide +kernel
  obtain ⟨now, found⟩ := Option.isSome_iff_exists.mp living
  exact ⟨rfl, rfl, living, disposal_invalidates_proxies known goesOn rfl afterwards found⟩

/-- Who coerces the box of a disposed engine is told that it cannot be converted, and not that it
was disposed. -/
theorem coercion_of_disposed_box :
    let disposed := boxInUse.modifyEngine 0 Engine.dispose
    (boxInUse.store.proxy? 0).isSome = true ∧ (disposed.engine 0).isDisposed = true ∧
      (runHelper .exhausted 1 (.number .int32) [.proxy 0]).outcome disposed =
        (.error (.raised (.argumentConversion (.incompatible "disposed host object" "Int32"))),
          disposed) :=
  ⟨rfl, rfl, rfl⟩

end ScriptBridge
