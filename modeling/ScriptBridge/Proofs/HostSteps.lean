/-
This file takes host code step by step. What it starts goes on by steps, and the
rest of it only changes the world. The body of a member may log itself only where
the use of that member is the last that happened.
-/

import ScriptBridge.Host.Run
import ScriptBridge.Proofs.Steps

namespace ScriptBridge.Host

open ScriptBridge.Run

variable {conduct : Conduct} [ChangeConduct conduct] {Failure : Type}
variable {steps : Conduct} [StepConduct steps]

/-! ### Literals -/

mutual

theorem Literal.evaluate_leaves :
    ∀ literal : Literal, Leaves conduct (literal.evaluate : Run Failure Value)
  | .constant _ => .pure _
  | .struct _ fields => .bind (Literal.evaluateAll_leaves fields) fun _ => .pure _
  | .fresh _ _ values dynamic =>
    .bind (Literal.evaluateAll_leaves values) fun _ =>
      .bind (DynamicLiteral.evaluate?_leaves dynamic) fun _ =>
        .bind (.create _ (fun _ => rfl) rfl) fun _ => .pure _
  | .labelled _ => .bind (.observe _) fun _ => .pure _
  | .array _ items =>
    .bind (Literal.evaluateAll_leaves items) fun _ =>
      .bind (.create _ trivial rfl) fun _ => .pure _
  | .buffer _ => .bind (.create _ trivial rfl) fun _ => .pure _
  | .view kind buffer offset length => by
    unfold Literal.evaluate
    refine .bind (Literal.evaluate_leaves buffer) fun made => ?_
    split
    · refine .bind (.readStore _) fun size => ?_
      split
      · exact .pure _
      · exact .pure _
    · exact .pure _
  | .box _ value =>
    .bind (Literal.evaluate_leaves value) fun _ => .bind (.create _ trivial rfl) fun _ => .pure _
  | .delegate _ _ => .bind (.create _ trivial rfl) fun _ => .pure _

theorem Literal.evaluateAll_leaves :
    ∀ literals : List Literal,
      Leaves conduct (Literal.evaluateAll literals : Run Failure (List Value))
  | [] => .pure _
  | literal :: rest =>
    .bind (Literal.evaluate_leaves literal) fun _ =>
      .bind (Literal.evaluateAll_leaves rest) fun _ => .pure _

theorem DynamicLiteral.evaluate?_leaves :
    ∀ dynamic : Option DynamicLiteral,
      Leaves conduct (DynamicLiteral.evaluate? dynamic : Run Failure (Option Dynamic))
  | none => .pure _
  | some (.mk _ values _ _ _ _ _) => .bind (Literal.evaluateAll_leaves values) fun _ => .pure _

end

/-! ### Strict access -/

theorem objectOf_leaves (value : Value) : Leaves conduct (objectOf value) := by
  unfold objectOf
  split
  · exact .pure _
  · exact .raise _
  · exact .raise _
  · exact .bind (.typeText value) fun _ => .raise _

theorem stateOf_leaves (value : Value) : Leaves conduct (stateOf value) := by
  unfold stateOf
  refine .bind (objectOf_leaves value) fun cell => .bind (.readStore _) fun object => ?_
  split
  · exact .pure _
  · exact .bind (.typeText value) fun _ => .raise _

@[simp]
theorem outcome_objectOf (cell : CellId) (world : World) :
    (objectOf (.object cell)).outcome world = (.ok cell, world) := rfl

/-- The state of an instance is that of the object in its cell. -/
theorem outcome_stateOf (self : Value) (world : World) :
    (∃ cell object, self = .object cell ∧ world.store.object? cell = some object ∧
        (stateOf self).outcome world = (.ok (cell, object), world)) ∨
      (∀ cell, self = .object cell → world.store.object? cell = none) ∧
        ∃ halt, (stateOf self).outcome world = (.error halt, world) := by
  cases self with
  | object cell =>
    unfold stateOf
    rw [outcome_bind_of_ok (outcome_objectOf cell world),
      outcome_bind_of_ok (outcome_readStore _ world)]
    cases found : world.store.object? cell with
    | none => exact .inr ⟨fun _ same => by cases same; exact found, _, rfl⟩
    | some object => exact .inl ⟨cell, object, rfl, found, rfl⟩
  | _ => exact .inr ⟨fun _ same => (by cases same), _, rfl⟩

/-- The object that a member runs on may change in everything but its handlers. -/
theorem changeObject_leaves (self : Value) (change : HostObject → HostObject)
    (handlers : ∀ object, (change object).handlersOf = object.handlersOf) :
    Leaves conduct (do
      let (cell, object) ← stateOf self
      modifyStore fun store => store.put cell (.object (change object)) : HostRun Unit) := by
  intro world
  rw [outcome_bind]
  obtain ⟨cell, object, -, found, ran⟩ | ⟨-, halt, ran⟩ := outcome_stateOf self world
  · rw [ran]
    refine Change.conducted (.put world (.object found fun event => ?_)) (.of_same rfl)
      (.put_object world found (handlers object)) (.of_put rfl rfl rfl) (.of_same rfl)
    rw [handlers]
  · rw [ran]
    exact RunConduct.refl world _

theorem extract_leaves (shape : Shape) (value : Value) : Leaves conduct (shape.extract value) := by
  unfold Shape.extract
  split
  · exact .pure _
  · exact .bind (.typeText value) fun _ => .raise _

theorem apply_leaves (extraction : Extraction) (value : Value) :
    Leaves conduct (extraction.apply value) := by
  unfold Extraction.apply
  split
  · exact .pure _
  · exact extract_leaves _ value
  · split
    · exact .pure _
    · exact extract_leaves _ value

/-! ### Expressions -/

theorem textOf_leaves (values : List Value) : Leaves conduct (textOf values) :=
  .bind (.valueTexts values) fun _ => .pure _

theorem sum_leaves (left right : Value) : Leaves conduct (sum left right) := by
  unfold sum
  refine .bind (extract_leaves _ left) fun left => .bind (extract_leaves _ right) fun right => ?_
  split
  · exact .pure _
  · exact .pure _

theorem evaluator_leaves (setting : Setting) (name : Option String) :
    Leaves conduct (evaluator setting name) := by
  unfold evaluator
  split
  · refine .bind (.observe _) fun found => ?_
    split
    · exact .pure _
    · exact .raise _
  · split
    · exact .pure _
    · exact .raise _

theorem requestInterrupt_leaves (engine : EngineId) :
    Leaves conduct (requestInterrupt engine : Run Failure Bool) := by
  intro world
  show conduct world false (world.withSession engine (world.session engine).requestInterrupt.2)
  obtain ⟨frames, state⟩ := (world.session engine).frames_requestInterrupt
  exact (World.withSession_level frames state).conducted

theorem interruptEngine_leaves (name : String) :
    Leaves conduct (interruptEngine name : Run Failure Bool) := by
  unfold interruptEngine
  refine .bind (.observe _) fun found => ?_
  split
  · exact requestInterrupt_leaves _
  · exact .pure _

/-- A part of the caller's engine, or what stands for it where there is no caller. -/
theorem caller_leaves (caller : Option EngineId) {known : Engine → Value} {none : Value} :
    Leaves conduct (match caller with
      | some engine => do return known (← Run.engine engine)
      | Option.none => return none : HostRun Value) := by
  split
  · exact .bind (.engine _) fun _ => .pure _
  · exact .pure _

variable {calls : Calls}

mutual

/-- An expression goes on as the calls it starts do. -/
theorem Expression.run_reaches (reach : calls.Reach steps) (setting : Setting)
    (arguments : List Value) : ∀ expression : Expression, Leaves steps (expression.run calls setting arguments)
  | .self => .pure _
  | .assigned => .pure _
  | .callDepth => caller_leaves _
  | .engineName => caller_leaves _
  | .interrupted => caller_leaves _
  | .stateSize => .bind (stateOf_leaves _) fun _ => .pure _
  | .literal contents => Literal.evaluate_leaves contents
  | .state _ => .bind (stateOf_leaves _) fun _ => .pure _
  | .stateAt key =>
    .bind (Expression.run_reaches reach setting arguments key) fun _ =>
      .bind (textOf_leaves _) fun _ => .bind (stateOf_leaves _) fun _ => .pure _
  | .argument index => by
    unfold Expression.run
    split
    · exact .pure _
    · exact .raise _
  | .field index => by
    unfold Expression.run
    split
    · exact .pure _
    · exact .pure _
  | .add left right =>
    .bind (Expression.run_reaches reach setting arguments left) fun _ =>
      .bind (Expression.run_reaches reach setting arguments right) fun _ => sum_leaves _ _
  | .concat parts =>
    .bind (Expression.runAll_reaches reach setting arguments parts) fun _ =>
      .bind (textOf_leaves _) fun _ => .pure _
  | .extract extraction operand =>
    .bind (Expression.run_reaches reach setting arguments operand) fun _ =>
      apply_leaves extraction _
  | .invoke delegate operands result => by
    unfold Expression.run
    refine .bind (Expression.run_reaches reach setting arguments delegate) fun found => ?_
    refine .bind (extract_leaves _ _) fun target => ?_
    refine .bind (Expression.runAll_reaches reach setting arguments operands) fun values => ?_
    split
    · refine .bind (.held (reach.invokeDelegate _ _)) fun answered => ?_
      cases result <;> exact .pure _
    · exact .pure _
  | .evaluate engine source =>
    .bind (Expression.run_reaches reach setting arguments source) fun _ =>
      .bind (evaluator_leaves setting engine) fun _ => .bind (textOf_leaves _) fun _ =>
        .held (.mapFailure (reach.evaluate _ _))
  | .interrupt engine => .bind (interruptEngine_leaves engine) fun _ => .pure _
  | .handlers _ => .bind (stateOf_leaves _) fun _ => .pure _

theorem Expression.runAll_reaches (reach : calls.Reach steps) (setting : Setting)
    (arguments : List Value) :
    ∀ expressions : List Expression,
      Leaves steps (Expression.runAll calls setting arguments expressions)
  | [] => .pure _
  | expression :: rest =>
    .bind (.held (Expression.run_reaches reach setting arguments expression)) fun _ =>
      .bind (Expression.runAll_reaches reach setting arguments rest) fun _ => .pure _

end

/-! ### Statements -/

theorem storeState_leaves (self : Value) (name : String) (value : Value) :
    Leaves conduct (storeState self name value) :=
  changeObject_leaves self (fun object => { object with state := object.state.put name value })
    fun _ => rfl

theorem fireAll_reaches (reach : calls.Reach steps) (arguments : List Value)
    (handlers : List CellId) : Leaves steps (fireAll calls arguments handlers) := by
  induction handlers with
  | nil => exact .pure _
  | cons handler rest inductionHypothesis =>
    exact .bind (.discard (reach.invokeDelegate handler arguments)) fun _ => inductionHypothesis

theorem fireEvent_reaches (reach : calls.Reach steps) (self : Value) (event : String)
    (arguments : List Value) :
    Leaves steps (fireEvent calls self event arguments) :=
  .bind (stateOf_leaves self) fun _ => .bind (.holdCells _) fun _ =>
    fireAll_reaches reach arguments _

/-- A statement goes on as its expressions and the handlers it fires do. -/
theorem Statement.run_reaches (reach : calls.Reach steps) (setting : Setting)
    (arguments : List Value) (statement : Statement) :
    Leaves steps (statement.run calls setting arguments) := by
  have value (expression : Expression) :=
    Expression.run_reaches reach setting arguments expression
  cases statement with
  | answer expression => exact .bind (value expression) fun _ => .pure _
  | setState name expression =>
    exact .bind (value expression) fun _ => .bind (storeState_leaves _ _ _) fun _ => .pure _
  | setStateAt key expression =>
    refine .bind (.held (value key)) fun _ => .bind (value expression) fun _ => ?_
    exact .bind (textOf_leaves _) fun _ => .bind (storeState_leaves _ _ _) fun _ => .pure _
  | setArgument index expression =>
    refine .bind (value expression) fun _ => ?_
    split
    · exact .pure _
    · exact .raise _
  | raise error => exact .raise _
  | fire event operands =>
    refine .bind (Expression.runAll_reaches reach setting arguments operands) fun _ => ?_
    exact .bind (fireEvent_reaches reach _ _ _) fun _ => .pure _
  | checkInterrupt =>
    dsimp only [Statement.run]
    split
    · exact .bind (.engine _) fun _ => .bind (.mapFailure (.ofExcept _)) fun _ => .pure _
    · exact .pure _
  | perform expression => exact .bind (.discard (value expression)) fun _ => .pure _
  | log expression =>
    refine .bind (value expression) fun _ => .bind (.observe _) fun _ => ?_
    exact .bind (.update (fun world => .log world rfl) (fun _ => .of_same rfl)
      (fun _ => .of_same rfl rfl) (fun _ => .of_same rfl rfl) fun _ => .of_same rfl) fun _ => .pure _

theorem runStatements_reaches (reach : calls.Reach steps) (setting : Setting)
    (arguments : List Value) (code : Code) :
    Leaves steps (runStatements calls setting arguments code) := by
  induction code generalizing arguments with
  | nil => exact .pure _
  | cons statement rest inductionHypothesis =>
    refine .bind (.scope (Statement.run_reaches reach setting arguments statement)) fun ended => ?_
    refine .bind (.holdCells _) fun _ => ?_
    split
    · exact .pure _
    · exact inductionHypothesis _

/-- Code goes on as its statements do. -/
theorem runCode_reaches (reach : calls.Reach steps) (setting : Setting) (arguments : List Value)
    (code : Code) :
    Leaves steps (runCode calls setting arguments code) :=
  .inScope _ (runStatements_reaches reach setting arguments code)

/-! ### Bodies -/

theorem connectionOf_leaves (value : Value) : Leaves conduct (connectionOf value) := by
  unfold connectionOf
  refine .bind (objectOf_leaves value) fun cell => .bind (.readStore _) fun found => ?_
  split
  · exact .pure _
  · exact .bind (.typeText value) fun _ => .raise _

theorem outcome_connectionOf_of_get? {cell : CellId} {bond : Connection} {world : World}
    (found : world.store.get? cell = some (.connection bond)) :
    (connectionOf (.object cell)).outcome world = (.ok (cell, bond), world) := by
  unfold connectionOf
  rw [outcome_bind_of_ok (outcome_objectOf cell world),
    outcome_bind_of_ok (outcome_readStore _ world), found]
  rfl

/-- The bond of a connection is that of its cell. -/
theorem outcome_connectionOf (self : Value) (world : World) :
    (∃ cell bond, self = .object cell ∧ world.store.get? cell = some (.connection bond) ∧
        (connectionOf self).outcome world = (.ok (cell, bond), world)) ∨
      ∃ halt, (connectionOf self).outcome world = (.error halt, world) := by
  cases self with
  | object cell =>
    unfold connectionOf
    rw [outcome_bind_of_ok (outcome_objectOf cell world),
      outcome_bind_of_ok (outcome_readStore _ world)]
    split
    · next bond found => exact .inl ⟨cell, bond, rfl, found, rfl⟩
    · exact .inr ⟨_, rfl⟩
  | _ => exact .inr ⟨_, rfl⟩

/-- A connection that is connected is marked, and then its handler is removed. -/
theorem EventHooks.outcome_undo (hooks : EventHooks) {cell : CellId} {bond : Connection}
    {world : World} (found : world.store.get? cell = some (.connection bond))
    (connected : bond.connected = true) :
    (hooks.undo (.object cell)).outcome world =
      (hooks.remove bond.source bond.event bond.handler).outcome
        { world with store := world.store.undo cell bond } := by
  unfold EventHooks.undo
  rw [outcome_bind_of_ok (outcome_connectionOf_of_get? found)]
  dsimp only
  rw [if_pos connected]
  rfl

/-- A connection that was undone stays as it is, and so does all else. -/
theorem EventHooks.outcome_undo_of_undone (hooks : EventHooks) {cell : CellId} {bond : Connection}
    {world : World} (found : world.store.get? cell = some (.connection bond))
    (undone : bond.connected = false) :
    (hooks.undo (.object cell)).outcome world = (.ok (), world) := by
  unfold EventHooks.undo
  rw [outcome_bind_of_ok (outcome_connectionOf_of_get? found)]
  dsimp only
  rw [undone]
  rfl

/-- A connection that is connected is undone. -/
theorem undoConnection_disconnects {cell : CellId} {bond : Connection} {world : World}
    (found : world.store.get? cell = some (.connection bond)) (connected : bond.connected = true) :
    World.Disconnects cell bond world ((undoConnection (.object cell)).outcome world).2 := by
  let undone := { world with store := world.store.undo cell bond }
  have opened : (undoConnection (.object cell)).outcome world =
      (removeHandler bond.source bond.event bond.handler).outcome undone :=
    EventHooks.kept.outcome_undo found connected
  rw [opened]
  unfold removeHandler
  rw [outcome_bind]
  obtain ⟨source, object, self, living, ran⟩ | ⟨gone, halt, ran⟩ :=
    outcome_stateOf bond.source undone
  · rw [ran]
    exact .detach found connected self living
  · rw [ran]
    exact .gone found connected gone

theorem undoConnection_leaves (self : Value) : Leaves steps (undoConnection self) := by
  intro world
  obtain ⟨cell, bond, rfl, found, -⟩ | ⟨halt, ran⟩ := outcome_connectionOf self world
  · cases connected : bond.connected with
    | true => exact StepConduct.disconnect (undoConnection_disconnects found connected)
    | false =>
      unfold undoConnection
      rw [EventHooks.outcome_undo_of_undone _ found connected]
      exact RunConduct.refl world _
  · unfold undoConnection EventHooks.undo
    rw [outcome_bind_of_error ran]
    exact RunConduct.refl world _

/-- The body of a member, once its label is logged, goes on as its code does. -/
theorem Body.run_reaches (reach : calls.Reach steps) (setting : Setting) (body : Body)
    (silent : body.label? = none) (arguments : List Value) :
    Leaves steps (body.run calls setting arguments) := by
  cases body with
  | code label statements =>
    rw [show label = none from silent]
    exact .bind (.pure _) fun _ => runCode_reaches reach setting arguments statements
  | disconnect => exact .bind (undoConnection_leaves _) fun _ => .pure _
  | connected => exact .bind (connectionOf_leaves _) fun _ => .pure _

end ScriptBridge.Host
