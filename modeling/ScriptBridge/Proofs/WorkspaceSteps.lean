/-
This file takes workspaces step by step. Whatever a step does goes on as script does,
changes engines as the surroundings may, or changes nothing of cells and engines. So
a relation that takes in all of that relates the worlds before and after a step, and
before and after steps one after another.
-/

import ScriptBridge.Proofs.ModuleRuns
import ScriptBridge.Workspace.Run

namespace ScriptBridge

open Run Script

/-! ### Exposure -/

/-- The relation takes in the making of private proxies with the flags. -/
def TakesIn (relation : World → World → Prop) (flags : ItemFlags) : Prop :=
  ∀ {before after : World}, flags.contains .privateAccess = true → Makings before after →
    before.ConfinesTo (·.flags = flags) after → before.KeepsTargets after → relation before after

theorem TakesIn.of_makings {relation : World → World → Prop} {flags : ItemFlags}
    (each : ∀ {before after : World}, Makings before after → relation before after) :
    TakesIn relation flags :=
  fun _ makings _ _ => each makings

namespace Workspace

open Bridge

/-- The flags that the action exposes an item with. -/
def Action.exposedAs? : Action → Option ItemFlags
  | .addObject _ flags _ | .addType _ flags _ => some flags
  | _ => none

/-- What only makes proxies with the flags besides may be done where these are taken in. -/
theorem leaves_of_makes {steps : World → World → Prop} [ChangeRelation steps] {Result : Type}
    {run : ScriptRun Result} {flags : ItemFlags} (takes : TakesIn steps flags)
    (leaves : ∀ {relation : World → World → Prop} [ChangeRelation relation],
      (∀ {made : Proxy}, made.flags = flags → made.target.isApt = true → Makes relation made) →
        Leaves relation run) :
    Leaves steps run := by
  cases hidden : flags.contains .privateAccess with
  | true =>
    refine fun world => takes hidden ?_ ?_ ?_
    · exact leaves (fun _ _ => .create_makings _) world
    · exact leaves (fun is _ => .create_confinesTo is) world
    · exact leaves (fun _ apt => .create_keepsTargets apt) world
  | false =>
    refine leaves fun {made} is apt => makes_of_plain (Proxy.isPlain_of_isApt ?_ apt)
    exact (congrArg (ItemFlags.contains · .privateAccess) is).trans hidden

section

variable {relation : World → World → Prop} [ChangeRelation relation] {engine : EngineId}
  {flags : ItemFlags}

theorem expose_leaves (name : String) (proxy : CellId) :
    Leaves relation (expose engine name flags proxy) :=
  .modifyAside engine fun _ => ⟨rfl, rfl, rfl, rfl, rfl, rfl⟩

theorem addObject_leaves (takes : TakesIn relation flags) (name : String) (value : Host.Value) :
    Leaves relation (addObject engine name flags value) := by
  refine leaves_of_makes takes fun makes => ?_
  unfold addObject
  split
  · exact .bind (findHandle_leaves (makes rfl rfl)) fun _ => expose_leaves name _
  · split
    · next like =>
      exact .bind (boxValue_leaves (makes rfl like)) fun _ => expose_leaves name _
    · refine .bind (.readStore _) fun type => ?_
      refine .bind (proxyReference_leaves type fun weak _ => ?_) fun _ => expose_leaves name _
      exact makes rfl (ProxyTarget.isApt_of_hasWeakForm weak)

theorem addType_leaves (takes : TakesIn relation flags) (name : String) (type : Host.TypeRef) :
    Leaves relation (addType engine name flags type) :=
  leaves_of_makes takes fun makes => .bind (requireAlive_leaves engine) fun _ =>
    .bind (findHandle_leaves (makes rfl rfl)) fun _ => expose_leaves name _

omit [ChangeRelation relation] in
/-- Without flags there is nothing to take in. -/
theorem takesIn_none : TakesIn relation .none :=
  fun hidden => absurd (ItemFlags.contains_none.symm.trans hidden) Bool.false_ne_true

theorem addTypes_leaves (types : List Host.TypeRef) :
    Leaves relation (addTypes engine types) := by
  induction types with
  | nil => exact .pure _
  | cons type rest inductionHypothesis =>
    exact .bind .types fun _ => .bind (addType_leaves takesIn_none _ type) fun _ =>
      inductionHypothesis

end

end Workspace

/-- A relation that takes in what the surroundings do besides: change what is no part of cells,
engines and history, create and close engines, and give them policies, which the history tells. -/
class WorkspaceRelation (relation : World → World → Prop) : Prop extends
    StepRelation relation where
  around : ∀ {before after : World}, after.engines = before.engines → after.store = before.store →
    after.history = before.history → relation before after
  create : ∀ (world : World) (engine : Engine), engine.modules = {} → engine.cache = {} →
    relation world
    { world with engines := world.engines.push engine }
  close : ∀ (world : World) engine, relation world (world.modifyEngine engine Engine.close)
  govern : ∀ (world : World) engine policy, relation world
    (world.modifyEngine engine fun state => { state with policy })
  tell : ∀ (world : World) engine policy, relation world
    { world with history := .governed engine policy :: world.history }

/-- A request for a module goes on as what it runs does. -/
theorem ModuleRequest.answer_reaches {steps : Conduct} [ModuleConduct steps] {calls : Calls}
    (reach : calls.Reach steps) (engine : EngineId) (request : ModuleRequest) :
    Leaves steps (request.answer calls engine) := by
  refine .bind (.held ?_) fun _ => Bridge.toHostValue_leaves engine _
  cases request with
  | importing specifier referrer =>
    exact importModule_reaches reach engine specifier referrer
  | evaluating specifier source =>
    exact .bind (.engine engine) fun _ => .bind (.ofExcept _) fun _ =>
      runModuleSource_reaches reach engine _ source

namespace Workspace

open Bridge Binding

/-! ### What steps are made of -/

section

variable {steps : Conduct} [StepConduct steps] {calls : Calls}

theorem runScope_reaches (reach : calls.Reach steps) (engine : EngineId) (body : Script.Code) :
    Leaves steps (runScope calls engine body) :=
  .bind (requireAlive_leaves engine) fun _ => .bind (nextDocument_leaves engine) fun _ =>
    frame_reaches engine .script (inLocals_reaches (Code.run_reaches reach _ body))

theorem runScript_reaches (reach : calls.Reach steps) (engine : EngineId) (source : String) :
    Leaves steps (runScript calls engine source) :=
  .bind (nextDocument_leaves engine) fun document =>
    runDocument_reaches reach engine document source

theorem marshalAll_reaches (reach : calls.Reach steps) (engine : EngineId)
    (values : List Host.Value) : Leaves steps (marshalAll calls engine values) := by
  induction values with
  | nil => exact .pure _
  | cons value rest inductionHypothesis =>
    exact .bind (.held (toScript_reaches reach engine value .object)) fun _ =>
      .bind inductionHypothesis fun _ => .pure _

theorem invokeGlobal_reaches (reach : calls.Reach steps) (engine : EngineId) (name : String)
    (arguments : List Host.Value) : Leaves steps (invokeGlobal calls engine name arguments) := by
  refine .bind (.held (frame_reaches engine .script (.bind (.engine engine) fun state => ?_)))
    fun _ => toHostValue_leaves engine _
  split
  · exact .raise _
  · refine .bind (.hold _) fun callee => ?_
    exact .bind (marshalAll_reaches reach engine arguments) fun _ =>
      callValue_reaches reach engine callee _

theorem collectOn_leaves (done : Collected) (engines : List EngineId) :
    Leaves steps (collectOn done engines) := by
  induction engines generalizing done with
  | nil => exact .pure _
  | cons engine rest inductionHypothesis =>
    refine .bind (collect_leaves engine) fun swept => ?_
    split
    · exact inductionHypothesis _
    · exact inductionHypothesis _

theorem countsOf_leaves (engine : EngineId) : Leaves steps (countsOf engine) :=
  .bind .reap fun _ => .bind (.observe _) fun _ => .pure _

theorem heapInfo_leaves : Leaves steps heapInfo :=
  .bind .reap fun _ => .bind (.observe _) fun _ => .pure _

theorem interrupt_leaves (engine : EngineId) : Leaves steps (interrupt engine) :=
  .bind (.engine engine) fun _ => .bind (Host.interruptEngine_leaves _) fun _ =>
    .bind (Host.interruptEngine_leaves _) fun _ => .bind (.engine engine) fun _ => .pure _

/-- The host evaluates modules as it asks for them. -/
theorem evaluateModule_leaves
    (requests : ∀ engine (request : ModuleRequest), Leaves steps (request.answer calls engine))
    (engine : EngineId) (specifier source : String) :
    Leaves steps (evaluateModule calls engine specifier source) := by
  rw [ModuleRequest.evaluateModule_eq]
  exact .scope (requests engine _)

/-- The host evaluates documents as script does, and modules as it asks for them. -/
theorem evaluateDocument_leaves (reach : calls.Reach steps)
    (requests : ∀ engine (request : ModuleRequest), Leaves steps (request.answer calls engine))
    (engine : EngineId) (document : Document) (source : String) :
    Leaves steps (evaluateDocument calls engine document source) := by
  unfold evaluateDocument
  split
  · exact evaluateModule_leaves requests engine _ source
  · exact .scope (.bind (.held (runDocument_reaches reach engine document source)) fun _ =>
      toHostValue_leaves engine _)

theorem evaluateLiterals_leaves (literals : List Host.Literal) :
    Leaves steps (evaluateLiterals literals) :=
  .held (Host.Literal.evaluateAll_leaves literals)

end

/-! ### Answers -/

variable {relation : World → World → Prop} [WorkspaceRelation relation] {calls : Calls}

section

variable {Failure Result : Type}

theorem update_leaves {change : World → World}
    (engines : ∀ world, (change world).engines = world.engines)
    (store : ∀ world, (change world).store = world.store)
    (history : ∀ world, (change world).history = world.history) :
    Leaves relation (update change : Run Failure Unit) :=
  fun world => WorkspaceRelation.around (engines world) (store world) (history world)

theorem answerScript_leaves (keep : Option String) {run : ScriptRun Script.Value}
    (leaves : Leaves relation run) : Leaves relation (answerScript keep run) := by
  unfold answerScript
  refine .bind (.held leaves) fun value => ?_
  split
  · exact .bind (update_leaves (fun _ => rfl) (fun _ => rfl) fun _ => rfl) fun _ =>
      .bind (.observe _) fun _ => .pure _
  · exact .bind (.observe _) fun _ => .pure _

theorem answerHost_leaves {run : ScriptRun Host.Value} (leaves : Leaves relation run) :
    Leaves relation (answerHost run) :=
  .bind (.held leaves) fun _ => .bind (.observe _) fun _ => .pure _

theorem answerNothing_leaves {run : ScriptRun Unit} (leaves : Leaves relation run) :
    Leaves relation (answerNothing run) :=
  .bind leaves fun _ => .pure _

theorem govern_leaves (engine : EngineId) (change : Policy → Policy) :
    Leaves relation (govern engine change : Run Failure Unit) :=
  .bind (.engine engine) fun _ => .bind (fun world => WorkspaceRelation.govern world engine _)
    fun _ world => WorkspaceRelation.tell world engine _

theorem closeEngine_leaves (engine : EngineId) :
    Leaves relation (modifyEngine engine Engine.close : Run Failure Unit) :=
  fun world => WorkspaceRelation.close world engine

theorem createEngine_leaves (name : String) (options : Options) (loader : Option Loader) :
    Leaves relation (createEngine name options loader : Run Failure Unit) :=
  fun world => WorkspaceRelation.create world _ rfl rfl

end

/-! ### Steps -/

section

variable (reach : calls.Reach relation)
  (requests : ∀ engine (request : ModuleRequest), Leaves relation (request.answer calls engine))
include reach requests

/-- Whatever is done, the world goes on as script and the surroundings do. -/
theorem perform_leaves (engine : EngineId) (keep : Option String) (action : Action)
    (takes : ∀ flags, action.exposedAs? = some flags → TakesIn relation flags) :
    Leaves relation (perform calls engine keep action) := by
  cases action with
  | script body => exact answerScript_leaves keep (runScope_reaches reach engine body)
  | evaluateScript source =>
    exact answerScript_leaves keep (runScript_reaches reach engine source)
  | toScript value type =>
    exact answerScript_leaves keep (.bind (.held (Host.Literal.evaluate_leaves value))
      fun _ => toScript_reaches reach engine _ type)
  | scriptGlobal name =>
    refine .bind (.engine engine) fun state => ?_
    split
    · exact answerScript_leaves keep (.pure _)
    · exact .pure _
  | toHost body type =>
    exact answerHost_leaves (.bind (.held (runScope_reaches reach engine body)) fun value =>
      .bind (converting_leaves (toHost_leaves engine value type)) fun _ => .pure _)
  | evaluate source => exact answerHost_leaves (evaluate_reaches reach engine source)
  | evaluateModule specifier source =>
    exact answerHost_leaves (evaluateModule_leaves requests engine specifier source)
  | evaluateDocument document source =>
    exact answerHost_leaves (evaluateDocument_leaves reach requests engine document source)
  | importModule specifier =>
    exact answerHost_leaves (requests engine (.importing specifier none))
  | invoke name arguments =>
    exact answerHost_leaves (.bind (evaluateLiterals_leaves arguments) fun values =>
      invokeGlobal_reaches reach engine name values)
  | global name =>
    refine .bind (.engine engine) fun state => ?_
    split
    · exact answerHost_leaves (toHostValue_leaves engine _)
    · exact .pure _
  | execute source =>
    exact answerNothing_leaves (.discard (runScript_reaches reach engine source))
  | addObject name flags value =>
    exact answerNothing_leaves (.bind (.held (Host.Literal.evaluate_leaves value)) fun _ =>
      addObject_leaves (takes flags rfl) name _)
  | addType name flags type =>
    exact answerNothing_leaves (addType_leaves (takes flags rfl) name type)
  | addTypes types => exact answerNothing_leaves (addTypes_leaves types)
  | addFunctions name => exact answerNothing_leaves (addType_leaves takesIn_none name _)
  | setGlobal name register =>
    exact answerNothing_leaves (.bind (.observe _) fun _ => writeGlobal_leaves engine name _)
  | setDefaultAccess access => exact answerNothing_leaves (govern_leaves engine _)
  | setAccessContext type => exact answerNothing_leaves (govern_leaves engine _)
  | state => exact .bind (.engine engine) fun _ => .pure _
  | interrupt => exact .bind (interrupt_leaves engine) fun _ => .pure _
  | collect => exact .bind (collect_leaves engine) fun _ => .pure _
  | collectAll =>
    exact .bind (.observe _) fun _ => .bind (collectOn_leaves _ _) fun _ => .pure _
  | counts => exact .bind (countsOf_leaves engine) fun _ => .pure _
  | heap => exact .bind heapInfo_leaves fun _ => .pure _
  | isEvaluated specifier => exact .bind (.bind (.engine engine) fun _ => .pure _) fun _ => .pure _
  | isDisposed => exact .bind (.engine engine) fun _ => .pure _
  | dispose => exact answerNothing_leaves (dispose_reaches engine)
  | options => exact .bind (.engine engine) fun _ => .bind .types fun _ => .pure _
  | object label =>
    refine .bind (.observe _) fun found => ?_
    split
    · exact answerHost_leaves (.pure _)
    · exact .pure _
  | drop register =>
    exact .bind (.observe _) fun _ =>
      .bind (update_leaves (fun _ => rfl) (fun _ => rfl) fun _ => rfl) fun _ => .pure _
  | dropEngine name =>
    refine .bind (.observe _) fun found => ?_
    split
    · next dropped => exact .bind (closeEngine_leaves dropped) fun _ => .pure _
    · exact .pure _
  | dropObject label =>
    exact .bind (.observe _) fun _ =>
      .bind (update_leaves (fun _ => rfl) (fun _ => rfl) fun _ => rfl) fun _ => .pure _
  | createEngine name options =>
    exact answerNothing_leaves (createEngine_leaves name options none)
  | engines => exact .bind (.observe _) fun _ => .pure _

/-- A step relates the worlds before and after it. -/
theorem runStep_leaves (step : Step)
    (takes : ∀ flags, step.action.exposedAs? = some flags → TakesIn relation flags)
    (world : World) : relation world (runStep calls step world).2 := by
  have performed := (perform_leaves reach requests ((world.engineNamed? step.engine).getD 0)
    step.keep step.action takes).scope { world with log := #[] }
  have emptied : relation world { world with log := #[] } := WorkspaceRelation.around rfl rfl rfl
  exact RunRelation.trans emptied performed

end

/-- The world after steps. -/
def worldAfter (calls : Calls) (steps : List Step) (world : World) : World :=
  steps.foldl (fun world step => (runStep calls step world).2) world

/-- Steps that come later go on from the world after those before. -/
theorem runSteps_append (calls : Calls) (first second : List Step) (world : World) :
    runSteps calls (first ++ second) world =
      runSteps calls first world ++ runSteps calls second (worldAfter calls first world) := by
  induction first generalizing world with
  | nil => rfl
  | cons step rest inductionHypothesis =>
    exact congrArg ((runStep calls step world).1 :: ·) (inductionHypothesis _)

/-- Steps one after another relate the worlds before and after them. -/
theorem worldAfter_leaves (reach : calls.Reach relation)
    (requests : ∀ engine (request : ModuleRequest), Leaves relation (request.answer calls engine))
    (steps : List Step)
    (takes : ∀ step ∈ steps, ∀ flags, step.action.exposedAs? = some flags →
      TakesIn relation flags) (world : World) :
    relation world (worldAfter calls steps world) := by
  induction steps generalizing world with
  | nil => exact RunRelation.refl world
  | cons step rest inductionHypothesis =>
    exact RunRelation.trans
      (runStep_leaves reach requests step (takes step List.mem_cons_self) world)
      (inductionHypothesis (fun other member => takes other (List.mem_cons_of_mem _ member)) _)

end ScriptBridge.Workspace
