/-
This file takes running code as a whole step by step: expressions, the functions
and documents made of them, and the runs that code starts, one level deeper at a
time. Within every depth, what is started goes on by steps.
-/

import ScriptBridge.Proofs.ScriptSteps
import ScriptBridge.Script.Module

namespace ScriptBridge.Script

open Run Bridge Binding

variable {conduct : Conduct} [ChangeConduct conduct]
variable {steps : Conduct} [StepConduct steps]

/-! ### Locals -/

theorem inLocals_reaches {Result : Type} {body : ScriptRun Result} (reaches : Leaves steps body) :
    Leaves steps (inLocals body) := by
  have enters (change : World → List (Named Value)) : Leaves steps
      (Run.update fun world => { world with locals := change world } : ScriptRun Unit) :=
    .update (fun world => .locals world _) (fun _ => .of_same rfl) (fun _ => .of_same rfl rfl)
      (fun _ => .of_same rfl rfl) fun _ => .of_same rfl
  exact .bind (enters _) fun _ => .bind (.settle reaches) fun _ =>
    .bind (enters _) fun _ => .ofExcept _

theorem modifyLocals_leaves (change : Named Value → Named Value) :
    Leaves conduct (modifyLocals change) := by
  intro world
  unfold modifyLocals
  rw [outcome_update]
  dsimp only
  split
  · exact RunConduct.refl world _
  · exact Change.conducted (.locals world _) (.of_same rfl) (.of_same rfl rfl) (.of_same rfl rfl)
      (.of_same rfl)

/-! ### Parts of expressions -/

theorem makeArray_leaves (items : List Value) : Leaves conduct (Script.makeArray items) :=
  .bind (.create _ trivial rfl) fun _ => .pure _

theorem makeObject_leaves (properties : List (String × Value)) :
    Leaves conduct (Script.makeObject properties) :=
  .bind (.create _ trivial rfl) fun _ => .pure _

theorem makeView_leaves (kind : Buffer.ElementKind) (buffer : Value) (offset length : Nat) :
    Leaves conduct (makeView kind buffer offset length) := by
  unfold makeView
  split
  · refine .bind (.readStore _) fun size => ?_
    split
    · exact .pure _
    · exact .raise _
  · exact .pure _

theorem pushItem_leaves (array value : Value) : Leaves conduct (pushItem array value) := by
  unfold pushItem
  split
  · exact .update (fun world => .append world _ value) (fun _ => .of_same rfl)
      (fun world => .append world _ value) (fun world => .append world _ value)
      fun _ => .of_same rfl
  · exact .pure _

theorem hasProperty_leaves (object : Value) (name : String) :
    Leaves conduct (hasProperty object name) := by
  unfold hasProperty
  split
  · exact .bind (.readStore _) fun _ => .pure _
  · exact .pure _

/-- What runs on an engine of a name starts where the engine is known. -/
theorem onEngine_reaches_of_known (name : String) {run : EngineId → ScriptRun Value}
    (reaches : ∀ engine world, engine < world.engines.size →
      steps world (isShort ((run engine).outcome world).1) ((run engine).outcome world).2) :
    Leaves steps (onEngine name run) := by
  intro world
  unfold onEngine
  rw [outcome_bind, outcome_observe]
  dsimp only
  cases found : world.engineNamed? name with
  | none => exact RunConduct.refl _ _
  | some engine => exact reaches engine world (Array.findIdx?_eq_some_iff_getElem.mp found).1

theorem onEngine_reaches (name : String) {run : EngineId → ScriptRun Value}
    (reaches : ∀ engine, Leaves steps (run engine)) : Leaves steps (onEngine name run) :=
  onEngine_reaches_of_known name fun engine world _ => reaches engine world

theorem tryCatch_reaches {body : ScriptRun Value} {handler : Value → ScriptRun Value}
    (reaches : Leaves steps body) (handled : ∀ value, Leaves steps (handler value)) :
    Leaves steps (tryCatch body handler) := by
  unfold tryCatch
  refine .bind (.settle reaches) fun settled => ?_
  split
  · exact .pure _
  · split
    · exact .bind (.holdCells _) fun _ => .bind (.held (caughtValue_leaves _)) handled
    · exact .raise _

theorem repeatedly_reaches {run : ScriptRun Value} (reaches : Leaves steps run) (count : Nat)
    (last : Value) : Leaves steps (repeatedly run count last) := by
  induction count generalizing last with
  | zero => exact .pure _
  | succ count inductionHypothesis =>
    exact .bind (.inScope _ reaches) inductionHypothesis

theorem log_leaves {Failure : Type} {entry : LogEntry Shown} (plain : entry.label? = none) :
    Leaves conduct (Run.log entry : Run Failure Unit) :=
  .update (fun world => .log world plain) (fun _ => .of_same rfl) (fun _ => .of_same rfl rfl)
    (fun _ => .of_same rfl rfl) fun _ => .of_same rfl

theorem dispose_reaches (engine : EngineId) :
    Leaves steps (modifyEngine engine Engine.dispose : ScriptRun Unit) :=
  fun world => StepConduct.dispose world _ engine

/-- A policy is given in one step. -/
theorem govern_reaches {world : World} {engine : EngineId} (known : engine < world.engines.size)
    (policy : Policy) {short : Bool} :
    steps world short { world.modifyEngine engine (fun state => { state with policy }) with
      history := .governed engine policy :: world.history } := by
  have modules : world.KeepsModules
      (world.modifyEngine engine fun state => { state with policy }) :=
    World.keepsModules_modifyEngine world engine fun _ => rfl
  have ties : world.KeepsTies (world.modifyEngine engine fun state => { state with policy }) :=
    .modifyEngine world engine fun _ => rfl
  have calls : world.KeepsCalls (world.modifyEngine engine fun state => { state with policy }) :=
    world.keepsCalls_modifyEngine engine (fun _ => rfl) fun _ => rfl
  refine StepConduct.steps (.single ⟨.govern world known policy, modules.trans (.of_same rfl), ?_,
    ties.trans (.of_same rfl rfl), ?_⟩) (calls.trans (.of_same rfl)).balances
  · exact .of_cache (World.wanes_modifyEngine (.refl _))
  · exact .of_store rfl (.of_cache rfl (World.wanes_modifyEngine (.refl _)))

/-! ### Expressions -/

variable {calls : Calls}

mutual

/-- An expression goes on as its parts and its operation do. -/
theorem Code.run_reaches (reach : calls.Reach steps) (context : Context) :
    ∀ code : Code, Leaves steps (code.run calls context)
  | .undefined | .null | .bool _ | .int _ | .double _ | .string _ | .date _ | .argument _ => .pure _
  | .array items =>
    .scope (.bind (Code.runAll_reaches reach context items) fun _ => makeArray_leaves _)
  | .object _ values =>
    .scope (.bind (Code.runAll_reaches reach context values) fun _ => makeObject_leaves _)
  | .buffer _ => .bind (.create _ trivial rfl) fun _ => .pure _
  | .view _ target _ _ =>
    .scope (.bind (.held (Code.run_reaches reach context target)) fun _ => makeView_leaves _ _ _ _)
  | .register _ => .observe _
  | .setLocal _ value =>
    .bind (.held (Code.run_reaches reach context value)) fun _ =>
      .bind (modifyLocals_leaves _) fun _ => .pure _
  | .dropLocal _ => .bind (modifyLocals_leaves _) fun _ => .pure _
  | .sequence parts => Code.runSequence_reaches reach context .undefined parts
  | .repeated count body =>
    repeatedly_reaches (Code.run_reaches reach context body) count .undefined
  | .global name => .scope (readGlobal_reaches reach _ name)
  | .setGlobal _ value =>
    .scope (.bind (.held (Code.run_reaches reach context value)) fun _ =>
      .bind (writeGlobal_leaves _ _ _) fun _ => .pure _)
  | .get target _ =>
    .scope (.bind (.held (Code.run_reaches reach context target)) fun _ =>
      getProperty_reaches reach _ _ _)
  | .set target _ value =>
    .scope (.bind (.held (Code.run_reaches reach context target)) fun _ =>
      .bind (.held (Code.run_reaches reach context value)) fun _ =>
        .bind (setProperty_reaches reach _ _ _ _) fun _ => .pure _)
  | .call callee operands =>
    .scope (.bind (.held (Code.run_reaches reach context callee)) fun _ =>
      .bind (Code.runAll_reaches reach context operands) fun _ => callValue_reaches reach _ _ _)
  | .invoke target _ operands =>
    .scope (.bind (.held (Code.run_reaches reach context target)) fun _ =>
      .bind (Code.runAll_reaches reach context operands) fun _ =>
        invokeProperty_reaches reach _ _ _ _)
  | .setInvoke target keys value =>
    .scope (.bind (.held (Code.run_reaches reach context target)) fun _ =>
      .bind (Code.runAll_reaches reach context keys) fun _ =>
        .bind (.held (Code.run_reaches reach context value)) fun _ =>
          .bind (assignThrough_reaches reach _ _ _ _) fun _ => .pure _)
  | .setInvokeMember target _ keys value =>
    .scope (.bind (.held (Code.run_reaches reach context target)) fun _ =>
      .bind (Code.runAll_reaches reach context keys) fun _ =>
        .bind (.held (Code.run_reaches reach context value)) fun _ =>
          .bind (assignThroughProperty_reaches reach _ _ _ _ _) fun _ => .pure _)
  | .index target keys =>
    .scope (.bind (.held (Code.run_reaches reach context target)) fun _ =>
      .bind (Code.runAll_reaches reach context keys) fun _ => readIndex_reaches reach _ _ _)
  | .setIndex target keys value =>
    .scope (.bind (.held (Code.run_reaches reach context target)) fun _ =>
      .bind (Code.runAll_reaches reach context keys) fun _ =>
        .bind (.held (Code.run_reaches reach context value)) fun _ =>
          .bind (writeIndex_reaches reach _ _ _ _) fun _ => .pure _)
  | .construct callee operands =>
    .scope (.bind (.held (Code.run_reaches reach context callee)) fun _ =>
      .bind (Code.runAll_reaches reach context operands) fun _ =>
        constructValue_reaches reach _ _ _)
  | .names target =>
    .scope (.bind (.held (Code.run_reaches reach context target)) fun _ =>
      .bind (namesOf_reaches _ _) fun _ => makeArray_leaves _)
  | .poll => .bind (.engine _) fun _ => .bind (.ofExcept _) fun _ => .pure _
  | .attempt body _ handler =>
    .scope (tryCatch_reaches (Code.run_reaches reach context body) fun _ =>
      .bind (modifyLocals_leaves _) fun _ => Code.run_reaches reach context handler)
  | .raise value =>
    .scope (.bind (.held (Code.run_reaches reach context value)) fun _ =>
      .bind (thrownError_leaves _ _) fun _ => .raise _)
  | .function _ _ => .bind (.create _ trivial rfl) fun _ => .pure _
  | .importModule _ => .scope (reach.importModule _ _ _)
  | .document => makeObject_leaves _
  | .engineName => .bind (.engine _) fun _ => .pure _
  | .equal left right =>
    .scope (.bind (.held (Code.run_reaches reach context left)) fun _ =>
      .bind (.held (Code.run_reaches reach context right)) fun _ =>
        .bind (.observe _) fun _ => .pure _)
  | .text value =>
    .scope (.bind (.held (Code.run_reaches reach context value)) fun _ =>
      .bind (textOf_reaches reach _ _) fun _ => .pure _)
  | .number value =>
    .scope (.bind (.held (Code.run_reaches reach context value)) fun _ =>
      .bind (numberOf_leaves _ _) fun _ => .pure _)
  | .typeName value | .truthy value =>
    .scope (.bind (.held (Code.run_reaches reach context value)) fun _ => .pure _)
  | .describe value =>
    .scope (.bind (.held (Code.run_reaches reach context value)) fun _ =>
      .bind (.describe _) fun _ => .pure _)
  | .host contents type =>
    .scope (.bind (.held (Host.Literal.evaluate_leaves contents)) fun _ =>
      toScript_reaches reach _ _ type)
  | .logHost value =>
    .scope (.bind (.held (Code.run_reaches reach context value)) fun _ =>
      .bind (.held (toHostValue_leaves _ _)) fun _ => .bind (.observe _) fun _ =>
        .bind (log_leaves rfl) fun _ => .pure _)
  | .push target value =>
    .scope (.bind (.held (Code.run_reaches reach context target)) fun _ =>
      .bind (.held (Code.run_reaches reach context value)) fun _ =>
        .bind (pushItem_leaves _ _) fun _ => .pure _)
  | .has target _ =>
    .scope (.bind (.held (Code.run_reaches reach context target)) fun _ =>
      .bind (hasProperty_leaves _ _) fun _ => .pure _)
  | .state name => onEngine_reaches name fun _ => .bind (.engine _) fun _ => .pure _
  | .interrupt name => .bind (Host.interruptEngine_leaves name) fun _ => .pure _
  | .collect name => onEngine_reaches name fun _ => .bind (collect_leaves _) fun _ => .pure _
  | .dispose name =>
    onEngine_reaches name fun engine => .bind (dispose_reaches engine) fun _ => .pure _
  | .roots name => onEngine_reaches name fun _ => .bind (.engine _) fun _ => .pure _
  | .defaultAccess name _ =>
    onEngine_reaches_of_known name fun _ _ known => govern_reaches known _

theorem Code.runAll_reaches (reach : calls.Reach steps) (context : Context) :
    ∀ parts : List Code, Leaves steps (Code.runAll calls context parts)
  | [] => .pure _
  | code :: rest =>
    .bind (.held (Code.run_reaches reach context code)) fun _ =>
      .bind (Code.runAll_reaches reach context rest) fun _ => .pure _

theorem Code.runSequence_reaches (reach : calls.Reach steps) (context : Context) :
    ∀ (last : Value) (parts : List Code), Leaves steps (Code.runSequence calls context last parts)
  | _, [] => .pure _
  | _, code :: rest =>
    .bind (.inScope _ (Code.run_reaches reach context code)) fun next =>
      Code.runSequence_reaches reach context next rest

end

/-! ### Functions -/

theorem adoptAll_leaves (engine : EngineId) (values : List Value) :
    Leaves steps (adoptAll engine values) := by
  induction values with
  | nil => exact .pure _
  | cons value rest inductionHypothesis =>
    refine .bind (.held (adopt_leaves engine value)) fun own => ?_
    exact .bind inductionHypothesis fun _ => .pure _

theorem requireOwner_leaves (function : Function) : Leaves conduct (requireOwner function) := by
  refine .bind (.engine _) fun state => ?_
  split
  · exact .raise _
  · exact .pure _

theorem callFunction_reaches (reach : calls.Reach steps) (engine : EngineId) (cell : CellId)
    (arguments : List Value) :
    Leaves steps (callFunction calls engine cell arguments) := by
  unfold callFunction
  refine .inScope _ (.bind (.readStore _) fun function => ?_)
  split
  · refine .bind (requireAlive_leaves engine) fun _ => ?_
    exact frame_reaches _ _ (inLocals_reaches (Code.run_reaches reach _ _))
  · refine .bind (requireOwner_leaves function) fun _ => ?_
    have foreign : Leaves steps (do
        let own ← adoptAll function.engine arguments
        mapFailure (foreignFailure engine) (calls.callFunction function.engine cell own) :
        ScriptRun Value) :=
      .bind (adoptAll_leaves _ _) fun _ => .mapFailure (reach.callFunction _ _ _)
    exact .bind (.held (frame_reaches _ _ foreign)) fun _ => adopt_leaves _ _

/-! ### Delegates -/

theorem callbackArguments_reaches (reach : calls.Reach steps) (engine : EngineId)
    (signature : Host.Signature) (place : Nat) (arguments : List Host.Value) :
    Leaves steps (callbackArguments calls engine signature place arguments) := by
  induction arguments generalizing place with
  | nil => exact .pure _
  | cons argument rest inductionHypothesis =>
    unfold callbackArguments
    rcases argumentShape signature place with ⟨declared, byReference⟩
    dsimp only
    refine .bind (.engine _) fun state => ?_
    split
    · refine .bind (.create _ trivial rfl) fun box => ?_
      exact .bind (.held (toScript_reaches reach _ _ _)) fun value =>
        .bind (inductionHypothesis _) fun made => .pure _
    · exact .bind (.held (toScript_reaches reach _ _ _)) fun value =>
        .bind (inductionHypothesis _) fun made => .pure _

theorem runCallback_reaches (reach : calls.Reach steps) (engine : EngineId) (function : CellId)
    (signature : Host.Signature) (arguments : List Host.Value) :
    Leaves steps (runCallback calls engine function signature arguments) :=
  .bind (callbackArguments_reaches reach engine signature 0 arguments) fun _ =>
    .bind (.held (reach.callFunction _ _ _)) fun _ => .pure _

theorem callbackResult_leaves (engine : EngineId) (signature : Host.Signature) (result : Value) :
    Leaves conduct (callbackResult engine signature result) := by
  unfold callbackResult
  split
  · exact .pure _
  · exact .bind (converted_leaves _ _ _) fun _ => .pure _

theorem callBack_reaches (reach : calls.Reach steps) (function : CellId)
    (signature : Host.Signature) (arguments : List Host.Value) :
    Leaves steps (callBack calls function signature arguments) := by
  refine .bind (.scope (.bind (.readStore _) fun contents => ?_)) fun _ =>
    .bind (.ofExcept _) fun _ => .pure _
  refine .bind (.settle (.bind (requireOwner_leaves contents) fun _ =>
    runCallback_reaches reach _ function signature arguments)) fun settled => ?_
  split
  · exact .pure _
  · exact .bind (.readStore _) fun store =>
      .bind (.settle (callbackResult_leaves _ signature _)) fun _ => .pure _

theorem invokeDelegate_reaches (reach : calls.Reach steps) (cell : CellId)
    (arguments : List Host.Value) : Leaves steps (invokeDelegate calls cell arguments) := by
  unfold invokeDelegate
  refine .inScope _ (.bind (.readStore _) fun contents => ?_)
  split
  · exact Host.runCode_reaches reach _ _ _
  · refine .bind .types fun table => ?_
    exact .mapFailure (callBack_reaches reach _ _ arguments)
  · exact .pure _

/-! ### Documents -/

theorem compile_leaves (document : Document) (source : String) :
    Leaves conduct (compile document source) :=
  .bind (.observe _) fun _ => .ofExcept _

theorem followPath_reaches (reach : calls.Reach steps) (engine : EngineId) (value : Value)
    (path : List String) :
    Leaves steps (followPath calls engine value path) := by
  induction path generalizing value with
  | nil => exact .pure _
  | cons name rest inductionHypothesis =>
    refine .bind (.inScope _ ?_) inductionHypothesis
    exact getProperty_reaches reach engine value name

theorem runCompiled_reaches (reach : calls.Reach steps) (engine : EngineId) (document : Document)
    (compiled : Compiled) :
    Leaves steps (runCompiled calls engine document compiled) := by
  cases compiled with
  | code body => exact inLocals_reaches (Code.run_reaches reach _ body)
  | literal value => exact .pure _
  | path first rest =>
    exact .bind (.scope (readGlobal_reaches reach engine first)) fun value =>
      followPath_reaches reach engine value rest

theorem nextDocument_leaves (engine : EngineId) : Leaves conduct (nextDocument engine) :=
  .bind (.modifyAside engine fun _ => ⟨rfl, rfl, rfl, rfl, rfl, rfl⟩) fun _ =>
    .bind (.engine _) fun _ => .pure _

theorem runDocument_reaches (reach : calls.Reach steps) (engine : EngineId) (document : Document)
    (source : String) :
    Leaves steps (runDocument calls engine document source) :=
  .bind (requireAlive_leaves engine) fun _ =>
    frame_reaches engine .script (.bind (compile_leaves document source) fun compiled =>
      runCompiled_reaches reach engine document compiled)

theorem evaluate_reaches (reach : calls.Reach steps) (engine : EngineId) (source : String) :
    Leaves steps (evaluate calls engine source) :=
  .scope (.bind (.held (.bind (nextDocument_leaves engine) fun document =>
    runDocument_reaches reach engine document source)) fun _ => toHostValue_leaves _ _)

/-! ### Modules -/

section

variable {steps : Conduct} [ModuleConduct steps]

theorem modifyModules_reaches (engine : EngineId) (change : ModuleCache → ModuleCache) :
    Leaves steps (modifyModules engine change) :=
  fun world => ModuleConduct.modules world _ engine change

theorem passModule_reaches (engine : EngineId) (specifier : String) :
    Leaves steps (passModule engine specifier) :=
  .bind (modifyModules_reaches engine _) fun _ => .pure _

theorem refuseModule_reaches (engine : EngineId) (specifier : String) (error : ScriptError) :
    Leaves steps (refuseModule engine specifier error) :=
  .bind (modifyModules_reaches engine _) fun _ => .raise _

theorem prepareModule_leaves (engine : EngineId) (specifier source : String) :
    Leaves conduct (prepareModule engine specifier source) :=
  .bind (requireAlive_leaves engine) fun _ => compile_leaves _ source

theorem runRecorded_reaches (reach : calls.Reach steps) (engine : EngineId) (record : CellId)
    (specifier : String) (compiled : Compiled) :
    Leaves steps (runRecorded calls engine record specifier compiled) := by
  unfold runRecorded
  refine .bind (.settle (frame_reaches _ _ (runCompiled_reaches reach _ _ _))) fun settled => ?_
  split
  · exact .bind (modifyModules_reaches engine _) fun _ => .pure _
  · exact .bind (modifyModules_reaches engine _) fun _ => .raise _

theorem runModule_reaches (reach : calls.Reach steps) (engine : EngineId) (specifier : String)
    (compiled : Compiled) : Leaves steps (runModule calls engine specifier compiled) :=
  .bind (.create _ trivial rfl) fun record => .bind (modifyModules_reaches engine _) fun _ =>
    runRecorded_reaches reach engine record specifier compiled

theorem runModuleSource_reaches (reach : calls.Reach steps) (engine : EngineId)
    (specifier source : String) :
    Leaves steps (runModuleSource calls engine specifier source) := by
  unfold runModuleSource
  refine .scope (.bind (.engine _) fun state => ?_)
  split
  · exact passModule_reaches engine specifier
  · refine .bind (.settle (prepareModule_leaves engine specifier source)) fun prepared => ?_
    split
    · exact runModule_reaches reach engine specifier _
    · exact refuseModule_reaches engine specifier _

theorem importModule_reaches (reach : calls.Reach steps) (engine : EngineId) (specifier : String)
    (referrer : Option String) :
    Leaves steps (importModule calls engine specifier referrer) := by
  unfold importModule
  refine .bind (.engine _) fun state => ?_
  split
  · exact .raise _
  · refine .bind (.ofExcept _) fun normalized => ?_
    split
    · exact passModule_reaches engine _
    · split
      · exact runModuleSource_reaches reach engine _ _
      · exact refuseModule_reaches engine _ _

end

/-! ### Depth -/

/-- What can be started goes on by steps if what it starts does, and the modules it imports do. -/
theorem startFrom_reach {deeper : Unit → Calls} (reach : (deeper ()).Reach steps)
    (imports : ∀ engine specifier referrer,
      Leaves steps (importModule (deeper ()) engine specifier referrer)) :
    (startFrom deeper).Reach steps where
  callFunction := callFunction_reaches reach
  callValue := callValue_reaches reach
  assignThrough := assignThrough_reaches reach
  toScript := toScript_reaches reach
  toText := textOf_reaches reach
  invokeDelegate := invokeDelegate_reaches reach
  evaluate := evaluate_reaches reach
  importModule := imports

/-- Within every depth, what can be started goes on as steps and changes of modules do. -/
theorem startWithin_goes {steps : Conduct} [ModuleConduct steps] (depth : Nat) :
    (startWithin depth).Reach steps := by
  induction depth with
  | zero => exact Calls.exhausted_reach
  | succ depth inductionHypothesis =>
    exact startFrom_reach inductionHypothesis (importModule_reaches inductionHypothesis)

/-- Within every depth, what can be started goes on by steps. -/
theorem startWithin_reach (depth : Nat) : (startWithin depth).Reach Reaches :=
  startWithin_goes depth

end ScriptBridge.Script
