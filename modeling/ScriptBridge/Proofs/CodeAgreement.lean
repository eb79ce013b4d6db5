/-
This file shows that host code does not depend on annotations by itself. Bodies, and
what a dynamic capability is asked, agree where the delegates they invoke and the
sources they evaluate do.
-/

import ScriptBridge.Binding.Dynamic
import ScriptBridge.Host.Run
import ScriptBridge.Proofs.BridgeAgreement
import ScriptBridge.Proofs.ConversionAgreement

namespace ScriptBridge.Host

open ScriptBridge.Run

variable {free : Annotated} {cut : Prop} {Failure : Type}

/-! ### Literals -/

mutual

theorem Literal.evaluate_agrees :
    ∀ literal : Literal, IsBlind free cut (literal.evaluate : Run Failure Value)
  | .constant _ => .pure _
  | .struct _ fields => .bind_same (Literal.evaluateAll_agrees fields) fun _ => .pure _
  | .fresh _ _ values dynamic =>
    .bind_same (Literal.evaluateAll_agrees values) fun _ =>
      .bind_same (DynamicLiteral.evaluate?_agrees dynamic) fun _ =>
        .bind_same (.create _) fun _ => .pure _
  | .labelled _ => .bind_same (.observe fun _ => rfl) fun _ => .pure _
  | .array _ items =>
    .bind_same (Literal.evaluateAll_agrees items) fun _ => .bind_same (.create _) fun _ => .pure _
  | .buffer _ => .bind_same (.create _) fun _ => .pure _
  | .view kind buffer offset length => by
    unfold Literal.evaluate
    refine .bind_same (Literal.evaluate_agrees buffer) fun made => ?_
    split
    · refine .bind_same (.readStore fun _ => rfl) fun size => ?_
      split
      · exact .pure _
      · exact .pure _
    · exact .pure _
  | .box _ value =>
    .bind_same (Literal.evaluate_agrees value) fun _ => .bind_same (.create _) fun _ => .pure _
  | .delegate _ _ => .bind_same (.create _) fun _ => .pure _

theorem Literal.evaluateAll_agrees :
    ∀ literals : List Literal,
      IsBlind free cut (Literal.evaluateAll literals : Run Failure (List Value))
  | [] => .pure _
  | literal :: rest =>
    .bind_same (Literal.evaluate_agrees literal) fun _ =>
      .bind_same (Literal.evaluateAll_agrees rest) fun _ => .pure _

theorem DynamicLiteral.evaluate?_agrees :
    ∀ dynamic : Option DynamicLiteral,
      IsBlind free cut (DynamicLiteral.evaluate? dynamic : Run Failure (Option Dynamic))
  | none => .pure _
  | some (.mk _ values _ _ _ _ _) => .bind_same (Literal.evaluateAll_agrees values) fun _ => .pure _

end

/-! ### Strict access -/

theorem objectOf_agrees (value : Value) : IsBlind free cut (objectOf value) := by
  unfold objectOf
  split
  · exact .pure _
  · exact .raise _
  · exact .raise _
  · exact .bind_same (.typeText value) fun _ => .raise _

theorem stateOf_agrees (value : Value) : IsBlind free cut (stateOf value) := by
  unfold stateOf
  refine .bind_same (objectOf_agrees value) fun cell => ?_
  refine .bind_same (.readStore fun _ => rfl) fun object => ?_
  split
  · exact .pure _
  · exact .bind_same (.typeText value) fun _ => .raise _

/-- A cell that is replaced is replaced whatever the annotations. -/
theorem put_agrees (cell : CellId) (contents : Cell) :
    IsBlind free cut (modifyStore (·.put cell contents) : Run Failure Unit) :=
  .modifyStore _ (fun _ => rfl) fun _ => rfl

theorem changeObject_agrees (self : Value) (change : HostObject → HostObject) :
    IsBlind free cut (do
      let (cell, object) ← stateOf self
      modifyStore fun store => store.put cell (.object (change object)) : HostRun Unit) :=
  .bind_same (stateOf_agrees self) fun ⟨_, _⟩ => put_agrees _ _

theorem extract_agrees (shape : Shape) (value : Value) :
    IsBlind free cut (shape.extract value) := by
  unfold Shape.extract
  split
  · exact .pure _
  · exact .bind_same (.typeText value) fun _ => .raise _

theorem apply_agrees (extraction : Extraction) (value : Value) :
    IsBlind free cut (extraction.apply value) := by
  unfold Extraction.apply
  split
  · exact .pure _
  · exact extract_agrees _ value
  · split
    · exact .pure _
    · exact extract_agrees _ value

/-! ### Expressions -/

theorem textOf_agrees (values : List Value) : IsBlind free cut (textOf values) :=
  .bind_same (.valueTexts values) fun _ => .pure _

theorem sum_agrees (left right : Value) : IsBlind free cut (sum left right) := by
  unfold sum
  refine .bind_same (extract_agrees _ left) fun left => ?_
  refine .bind_same (extract_agrees _ right) fun right => ?_
  split
  · exact .pure _
  · exact .pure _

theorem evaluator_agrees (setting : Setting) (name : Option String) :
    IsBlind free cut (evaluator setting name) := by
  unfold evaluator
  split
  · refine .bind_same (.observe fun _ => rfl) fun found => ?_
    split
    · exact .pure _
    · exact .raise _
  · split
    · exact .pure _
    · exact .raise _

theorem interruptEngine_agrees (name : String) :
    IsBlind free cut (interruptEngine name : Run Failure Bool) := by
  unfold interruptEngine
  refine .bind_same (.observe fun _ => rfl) fun found => ?_
  cases found with
  | none => exact .pure _
  | some engine =>
    refine .bind_same (.engine engine) fun state => ?_
    rcases state.session.requestInterrupt with ⟨accepted, session⟩
    exact .bind_same (.modifyEngine _ _) fun _ => .pure _

/-- A part of the caller's engine, or what stands for it where there is no caller. -/
theorem caller_agrees (caller : Option EngineId) {known : Engine → Value} {none : Value} :
    IsBlind free cut (match caller with
      | some engine => do return known (← Run.engine engine)
      | Option.none => return none : HostRun Value) := by
  split
  · exact .bind_same (.engine _) fun _ => .pure _
  · exact .pure _

variable {calls twin : Calls}

mutual

/-- An expression agrees where what it starts does. -/
theorem Expression.run_agrees (agree : calls.Agree free cut twin) (setting : Setting)
    (arguments : List Value) :
    ∀ expression : Expression, Agrees free cut Eq (expression.run calls setting arguments)
      (expression.run twin setting arguments)
  | .self => .pure _
  | .assigned => .pure _
  | .callDepth => caller_agrees _
  | .engineName => caller_agrees _
  | .interrupted => caller_agrees _
  | .stateSize => .bind_same (stateOf_agrees _) fun _ => .pure _
  | .literal contents => Literal.evaluate_agrees contents
  | .state _ => .bind_same (stateOf_agrees _) fun _ => .pure _
  | .stateAt key =>
    .bind_same (Expression.run_agrees agree setting arguments key) fun _ =>
      .bind_same (textOf_agrees _) fun _ => .bind_same (stateOf_agrees _) fun _ => .pure _
  | .argument index => by
    unfold Expression.run
    split
    · exact .pure _
    · exact .raise _
  | .field index => by
    unfold Expression.run
    split
    · exact .pure _
    · exact .pure _
  | .add left right =>
    .bind_same (Expression.run_agrees agree setting arguments left) fun _ =>
      .bind_same (Expression.run_agrees agree setting arguments right) fun _ => sum_agrees _ _
  | .concat parts =>
    .bind_same (Expression.runAll_agrees agree setting arguments parts) fun _ =>
      .bind_same (textOf_agrees _) fun _ => .pure _
  | .extract extraction operand =>
    .bind_same (Expression.run_agrees agree setting arguments operand) fun _ =>
      apply_agrees extraction _
  | .invoke delegate operands result => by
    unfold Expression.run
    refine .bind_same (Expression.run_agrees agree setting arguments delegate) fun found => ?_
    refine .bind_same (extract_agrees _ _) fun target => ?_
    refine .bind_same (Expression.runAll_agrees agree setting arguments operands) fun values => ?_
    cases target with
    | delegate cell =>
      refine .bind_same (.held (agree.invokeDelegate _ _)) fun answered => ?_
      cases result <;> exact .pure _
    | _ => exact .pure _
  | .evaluate engine source =>
    .bind_same (Expression.run_agrees agree setting arguments source) fun _ =>
      .bind_same (evaluator_agrees setting engine) fun _ => .bind_same (textOf_agrees _) fun _ =>
        .held (.mapFailure (fun _ => rfl) (agree.evaluate _ _))
  | .interrupt engine => .bind_same (interruptEngine_agrees engine) fun _ => .pure _
  | .handlers _ => .bind_same (stateOf_agrees _) fun _ => .pure _

theorem Expression.runAll_agrees (agree : calls.Agree free cut twin) (setting : Setting)
    (arguments : List Value) :
    ∀ expressions : List Expression,
      Agrees free cut Eq (Expression.runAll calls setting arguments expressions)
        (Expression.runAll twin setting arguments expressions)
  | [] => .pure _
  | expression :: rest =>
    .bind_same (.held (Expression.run_agrees agree setting arguments expression)) fun _ =>
      .bind_same (Expression.runAll_agrees agree setting arguments rest) fun _ => .pure _

end

/-! ### Statements -/

theorem storeState_agrees (self : Value) (name : String) (value : Value) :
    IsBlind free cut (storeState self name value) :=
  changeObject_agrees self fun object => { object with state := object.state.put name value }

theorem fireAll_agrees (agree : calls.Agree free cut twin) (arguments : List Value)
    (handlers : List CellId) :
    Agrees free cut Eq (fireAll calls arguments handlers) (fireAll twin arguments handlers) := by
  induction handlers with
  | nil => exact .pure _
  | cons handler rest inductionHypothesis =>
    exact .bind_same (.discard (agree.invokeDelegate handler arguments)) fun _ =>
      inductionHypothesis

theorem fireEvent_agrees (agree : calls.Agree free cut twin) (self : Value) (event : String)
    (arguments : List Value) :
    Agrees free cut Eq (fireEvent calls self event arguments)
      (fireEvent twin self event arguments) :=
  .bind_same (stateOf_agrees self) fun _ => .bind_same (.holdCells _) fun _ =>
    fireAll_agrees agree arguments _

/-- A statement agrees where what it starts does. -/
theorem Statement.run_agrees (agree : calls.Agree free cut twin) (setting : Setting)
    (arguments : List Value) (statement : Statement) :
    Agrees free cut Eq (statement.run calls setting arguments)
      (statement.run twin setting arguments) := by
  have value (expression : Expression) :=
    Expression.run_agrees agree setting arguments expression
  cases statement with
  | answer expression => exact .bind_same (value expression) fun _ => .pure _
  | setState name expression =>
    refine .bind_same (value expression) fun _ => ?_
    exact .bind_same (storeState_agrees _ _ _) fun _ => .pure _
  | setStateAt key expression =>
    refine .bind_same (.held (value key)) fun _ => .bind_same (value expression) fun _ => ?_
    refine .bind_same (textOf_agrees _) fun _ => ?_
    exact .bind_same (storeState_agrees _ _ _) fun _ => .pure _
  | setArgument index expression =>
    refine .bind_same (value expression) fun _ => ?_
    split
    · exact .pure _
    · exact .raise _
  | raise error => exact .raise _
  | fire event operands =>
    refine .bind_same (Expression.runAll_agrees agree setting arguments operands) fun _ => ?_
    exact .bind_same (fireEvent_agrees agree _ _ _) fun _ => .pure _
  | checkInterrupt =>
    dsimp only [Statement.run]
    cases setting.caller with
    | some engine =>
      refine .bind_same (.engine _) fun _ => ?_
      exact .bind_same (.mapFailure (fun _ => rfl) (.ofExcept _)) fun _ => .pure _
    | none => exact .pure _
  | perform expression => exact .bind_same (.discard (value expression)) fun _ => .pure _
  | log expression =>
    refine .bind_same (value expression) fun result => ?_
    refine .bind_same (.observe fun world => world.shownHost_bare result) fun _ => ?_
    exact .bind_same (.log _) fun _ => .pure _

theorem runStatements_agrees (agree : calls.Agree free cut twin) (setting : Setting)
    (arguments : List Value) (code : Code) :
    Agrees free cut Eq (runStatements calls setting arguments code)
      (runStatements twin setting arguments code) := by
  induction code generalizing arguments with
  | nil => exact .pure _
  | cons statement rest inductionHypothesis =>
    refine .bind_same (.scope (Statement.run_agrees agree setting arguments statement)) ?_
    rintro ⟨ended, left⟩
    refine .bind_same (.holdCells _) fun _ => ?_
    cases ended with
    | some value => exact .pure _
    | none => exact inductionHypothesis _

/-- Code agrees where what it starts does. -/
theorem runCode_agrees (agree : calls.Agree free cut twin) (setting : Setting)
    (arguments : List Value) (code : Code) :
    Agrees free cut Eq (runCode calls setting arguments code)
      (runCode twin setting arguments code) :=
  .inScope _ (runStatements_agrees agree setting arguments code)

/-! ### Bodies -/

/-- What is logged of a run shows the same. -/
theorem logRun_agrees (label : Option String) (arguments : List Value) (assigned : Option Value) :
    IsBlind free cut (logRun label arguments assigned) := by
  unfold logRun
  cases label with
  | none => exact .pure _
  | some label =>
    dsimp only
    have stripped (world : World) : id world.bare = (id world).bare := rfl
    refine .bind_part World.bare stripped (fun world => ?_) fun world => .log _
    have shown : world.bare.shownHost = world.shownHost := funext world.shownHost_bare
    rw [shown]

theorem connectionOf_agrees (value : Value) : IsBlind free cut (connectionOf value) := by
  unfold connectionOf
  refine .bind_same (objectOf_agrees value) fun cell => ?_
  refine .bind_same (.readStore fun _ => rfl) fun found => ?_
  split
  · exact .pure _
  · exact .bind_same (.typeText value) fun _ => .raise _

theorem undoConnection_agrees (self : Value) : IsBlind free cut (undoConnection self) := by
  unfold undoConnection EventHooks.undo
  refine .bind_same (connectionOf_agrees self) fun ⟨cell, bond⟩ => ?_
  dsimp only
  split
  · exact .bind_same (put_agrees _ _) fun _ =>
      changeObject_agrees bond.source (·.detach bond.event bond.handler)
  · exact .pure _

/-- The body of a member agrees where what it starts does. -/
theorem Body.run_agrees (agree : calls.Agree free cut twin) (setting : Setting)
    (arguments : List Value) (body : Body) :
    Agrees free cut Eq (body.run calls setting arguments) (body.run twin setting arguments) := by
  cases body with
  | code label statements =>
    exact .bind_same (logRun_agrees _ _ _) fun _ =>
      runCode_agrees agree setting arguments statements
  | disconnect => exact .bind_same (undoConnection_agrees _) fun _ => .pure _
  | connected => exact .bind_same (connectionOf_agrees _) fun _ => .pure _

end ScriptBridge.Host

namespace ScriptBridge.Binding

open Host Run Bridge

variable {free : Annotated} {cut : Prop}

/-! ### Dynamic capabilities -/

theorem dynamicOf?_agrees (proxy : CellId) (target : Host.Value) (request : Request) :
    IsBlind free cut (dynamicOf? proxy target request) := by
  refine .bind_same (.readStore fun _ => rfl) fun found => ?_
  cases found with
  | none => exact .pure _
  | some object => exact .bind_same (.note rfl) fun _ => .pure _

theorem capability_agrees (cell : CellId) : IsBlind free cut (capability cell) := by
  unfold capability
  refine .bind_same (.readStore fun _ => rfl) fun object => ?_
  split
  · exact .pure _
  · exact .pure _

theorem checkKey_agrees (dynamic : Dynamic) (key : String) :
    IsBlind free cut (checkKey dynamic key) := by
  unfold checkKey
  split
  · exact .raise _
  · exact .pure _

theorem modifyDynamic_agrees (cell : CellId) (change : Named Host.Value → Named Host.Value) :
    IsBlind free cut (modifyDynamic cell change) := by
  unfold modifyDynamic
  refine .bind_same (.readStore fun _ => rfl) fun object => ?_
  split
  · exact put_agrees _ _
  · exact .pure _

theorem readDynamic_agrees (cell : CellId) (operation : Capability) (key : String) :
    IsBlind free cut (readDynamic cell operation key) := by
  unfold readDynamic
  refine .bind_same (capability_agrees cell) fun dynamic => ?_
  split
  · exact .pure _
  · exact .bind_same (checkKey_agrees dynamic key) fun _ => .pure _

theorem writeDynamic_agrees (cell : CellId) (operation : Capability) (key : String)
    (value : Host.Value) : IsBlind free cut (writeDynamic cell operation key value) := by
  unfold writeDynamic
  refine .bind_same (capability_agrees cell) fun dynamic => ?_
  split
  · exact .pure _
  · refine .bind_same (checkKey_agrees dynamic key) fun _ => ?_
    exact .bind_same (modifyDynamic_agrees cell _) fun _ => .pure _

theorem keyText_agrees (keys : List Host.Value) : IsBlind free cut (keyText keys) :=
  .bind_same (.valueTexts keys) fun _ => .pure _

/-! ### Offers -/

/-- Offers agree where what they ask does. -/
theorem offer_agrees {Answer : Type} (proxy : CellId) (target : Host.Value) (request : Request)
    (unasked : Answer) {ask askTwin : CellId → ScriptRun Answer}
    (asked : ∀ object, Agrees free cut Eq (ask object) (askTwin object)) :
    Agrees free cut Eq (offer proxy target request unasked ask)
      (offer proxy target request unasked askTwin) := by
  unfold offer
  refine .bind_same (dynamicOf?_agrees proxy target request) fun found => ?_
  cases found with
  | some object => exact asked object
  | none => exact .pure _

theorem offerSet_agrees (engine : EngineId) (proxy : CellId) (target : Host.Value) (name : String)
    (value : Script.Value) : IsBlind free cut (offerSet engine proxy target name value) := by
  refine offer_agrees proxy target _ _ fun object => ?_
  refine .bind_same (.held (toHostValue_agrees engine value)) fun _ => ?_
  exact callHost_agrees engine (writeDynamic_agrees _ _ _ _)

theorem offerSetIndex_agrees (engine : EngineId) (proxy : CellId) (target : Host.Value)
    (keys : List Script.Value) (value : Script.Value) :
    IsBlind free cut (offerSetIndex engine proxy target keys value) := by
  refine offer_agrees proxy target _ _ fun object => ?_
  refine .bind_same (toHostValues_agrees engine keys) fun _ => ?_
  refine .bind_same (keyText_agrees _) fun _ => ?_
  refine .bind_same (.held (toHostValue_agrees engine value)) fun _ => ?_
  exact callHost_agrees engine (writeDynamic_agrees _ _ _ _)

variable {calls twin : Calls} (agree : calls.Agree free cut twin)

include agree

theorem runDynamic_agrees (engine : EngineId) (body : Option Code) (arguments : List Host.Value) :
    Agrees free cut Eq (runDynamic calls engine body arguments)
      (runDynamic twin engine body arguments) := by
  cases body with
  | none => exact .pure _
  | some code => exact .bind_same (runCode_agrees agree _ arguments code) fun _ => .pure _

theorem answer_agrees (engine : EngineId) (found : Option Host.Value) :
    Agrees free cut Eq (answer calls engine found) (answer twin engine found) := by
  cases found with
  | none => exact .pure _
  | some value => exact .bind_same (toScript_agrees agree engine value .object) fun _ => .pure _

theorem offerGet_agrees (engine : EngineId) (proxy : CellId) (target : Host.Value)
    (name : String) :
    Agrees free cut Eq (offerGet calls engine proxy target name)
      (offerGet twin engine proxy target name) := by
  refine offer_agrees proxy target _ _ fun object => ?_
  refine .bind_same (.held (callHost_agrees engine (readDynamic_agrees _ _ _))) fun _ => ?_
  exact answer_agrees agree engine _

theorem offerGetIndex_agrees (engine : EngineId) (proxy : CellId) (target : Host.Value)
    (keys : List Script.Value) :
    Agrees free cut Eq (offerGetIndex calls engine proxy target keys)
      (offerGetIndex twin engine proxy target keys) := by
  refine offer_agrees proxy target _ _ fun object => ?_
  refine .bind_same (toHostValues_agrees engine keys) fun _ => ?_
  refine .bind_same (keyText_agrees _) fun _ => ?_
  refine .bind_same (.held (callHost_agrees engine (readDynamic_agrees _ _ _))) fun _ => ?_
  exact answer_agrees agree engine _

/-- A body of a capability agrees where what it starts does. -/
theorem askBody_agrees (engine : EngineId) (body : Dynamic → Option Code)
    (arguments : List Script.Value) (object : CellId) :
    Agrees free cut Eq (askBody calls engine body arguments object)
      (askBody twin engine body arguments object) := by
  unfold askBody
  refine .bind_same (toHostValues_agrees engine arguments) fun _ => ?_
  refine .bind_same (.held (callHost_agrees engine (.bind_same (capability_agrees object) fun _ =>
    runDynamic_agrees agree engine _ _))) fun _ => ?_
  exact answer_agrees agree engine _

theorem offerInvoke_agrees (engine : EngineId) (proxy : CellId) (target : Host.Value)
    (name : String) (arguments : List Script.Value) :
    Agrees free cut Eq (offerInvoke calls engine proxy target name arguments)
      (offerInvoke twin engine proxy target name arguments) :=
  offer_agrees proxy target _ _ (askBody_agrees agree engine _ arguments)

theorem offerCall_agrees (engine : EngineId) (proxy : CellId) (target : Host.Value)
    (arguments : List Script.Value) :
    Agrees free cut Eq (offerCall calls engine proxy target arguments)
      (offerCall twin engine proxy target arguments) :=
  offer_agrees proxy target _ _ (askBody_agrees agree engine _ arguments)

end ScriptBridge.Binding
