/-
This file follows the modules of engines through workspaces. Whatever a step does,
the modules of every engine stay in order and what the chronicles told they go on
telling; so it is with steps one after another, from a workspace in which no module
has been asked for yet.
-/

import ScriptBridge.Proofs.WorkspaceSteps

namespace ScriptBridge

open Run Script

/-! ### Orders that are kept -/

/-- The modules of every engine are still in order, and what was told of them still is. -/
def World.KeepsOrder (before after : World) : Prop :=
  before.ModulesOrderly → after.ModulesOrderly ∧
    ∀ engine, (before.modules engine).chronicle <:+ (after.modules engine).chronicle

variable {world before after : World}

theorem World.ModulesGoOn.keepsOrder (goOn : before.ModulesGoOn after) :
    before.KeepsOrder after := by
  intro orderly
  obtain ⟨inOrder, sustains⟩ := goOn.goOn orderly
  exact ⟨inOrder, fun engine => (sustains engine "").told⟩

/-- Every engine has the modules that it had, and one that is new has none. -/
def World.SameModules (before after : World) : Prop :=
  ∀ engine, after.modules engine = before.modules engine

theorem World.SameModules.of_same (engines : after.engines = before.engines) :
    before.SameModules after :=
  (World.KeepsModules.of_same engines).modules

instance : ChangeRelation World.SameModules where
  refl _ _ := rfl
  trans first second engine := (second engine).trans (first engine)
  held _ _ := .of_same rfl
  change change _ _ _ := change.keeps.modules.modules

theorem World.SameModules.keepsOrder (same : before.SameModules after) :
    before.KeepsOrder after := by
  intro orderly
  refine ⟨fun engine => ?_, fun engine => ?_⟩
  · rw [same]
    exact orderly engine
  · rw [same]

instance : RunRelation World.KeepsOrder where
  refl _ := World.SameModules.keepsOrder (.of_same rfl)
  trans first second orderly := by
    obtain ⟨inOrder, early⟩ := first orderly
    obtain ⟨still, late⟩ := second inOrder
    exact ⟨still, fun engine => (early engine).trans (late engine)⟩
  held _ _ := World.SameModules.keepsOrder (.of_same rfl)

theorem World.KeepsOrder.of_makings (makings : Makings before after) : before.KeepsOrder after :=
  makings.related fun change _ _ => change.keeps.modules.goOn.keepsOrder

instance : ChangeRelation World.KeepsOrder where
  change change _ _ _ := change.keeps.modules.goOn.keepsOrder

instance : StepRelation World.KeepsOrder where
  step _ keeps _ _ _ := keeps.goOn.keepsOrder
  connect := World.Connects.related fun _ keeps _ _ => keeps.goOn.keepsOrder
  disconnect := World.Disconnects.related fun _ keeps _ _ => keeps.goOn.keepsOrder
  convey _ _ makings _ _ := .of_makings makings
  dispose world engine := (World.ModulesGoOn.dispose world engine).keepsOrder

theorem Calls.Reach.mono {steps wider : World → World → Prop} {calls : Calls}
    (reach : calls.Reach steps)
    (wide : ∀ {before after}, steps before after → wider before after) : calls.Reach wider where
  callFunction engine cell arguments := (reach.callFunction engine cell arguments).mono wide
  callValue engine callee arguments := (reach.callValue engine callee arguments).mono wide
  assignThrough engine callee keys value :=
    (reach.assignThrough engine callee keys value).mono wide
  toScript engine value declared := (reach.toScript engine value declared).mono wide
  toText engine value := (reach.toText engine value).mono wide
  invokeDelegate cell arguments := (reach.invokeDelegate cell arguments).mono wide
  evaluate engine source := (reach.evaluate engine source).mono wide
  importModule engine specifier referrer := (reach.importModule engine specifier referrer).mono wide

namespace Workspace

open Bridge Binding

/-- An engine that is created has no modules, as one that is not there. -/
theorem sameModules_push (world : World) (engine : Engine) (fresh : engine.modules = {}) :
    world.SameModules { world with engines := world.engines.push engine } := by
  intro other
  show ((world.engines.push engine)[other]?.getD default).modules =
    (world.engines[other]?.getD default).modules
  rw [Array.getElem?_push]
  split
  · next new =>
    rw [new, Array.getElem?_eq_none (Nat.le_refl _)]
    exact fresh
  · rfl

/-! ### Steps -/

instance : WorkspaceRelation World.KeepsOrder where
  around engines _ _ := World.SameModules.keepsOrder (.of_same engines)
  create world engine fresh _ := (sameModules_push world engine fresh).keepsOrder
  close world engine := (World.ModulesGoOn.close world engine).keepsOrder
  govern world engine policy := by
    have keeps : world.KeepsModules
        (world.modifyEngine engine fun state => { state with policy }) :=
      World.keepsModules_modifyEngine world engine fun _ => rfl
    exact keeps.goOn.keepsOrder
  tell _ _ _ := World.SameModules.keepsOrder (.of_same rfl)

/-- Steps one after another keep the order. -/
theorem worldAfter_keepsOrder {calls : Calls} (reach : calls.Reach World.ModulesGoOn)
    (steps : List Step) (world : World) : world.KeepsOrder (worldAfter calls steps world) :=
  worldAfter_leaves (reach.mono World.ModulesGoOn.keepsOrder)
    (fun engine request => (ModuleRequest.answer_goesOn reach engine request).mono
      World.ModulesGoOn.keepsOrder) steps
    (fun _ _ _ _ => TakesIn.of_makings World.KeepsOrder.of_makings) world

/-! ### Workspaces -/

section

variable {Failure : Type} {relation : World → World → Prop} [ChangeRelation relation]

theorem makeParameters_leaves (definitions : List Host.ParameterDefinition) :
    Leaves relation (Host.makeParameters definitions : Run Failure _) := by
  induction definitions with
  | nil => exact .pure _
  | cons definition rest inductionHypothesis =>
    have made : Leaves relation (definition.make : Run Failure _) := by
      unfold Host.ParameterDefinition.make
      cases definition.default with
      | none => exact .bind (.pure _) fun _ => .pure _
      | some literal =>
        dsimp only
        rw [← bind_pure_comp]
        exact .bind (.bind (Host.Literal.evaluate_leaves literal) fun _ => .pure _) fun _ => .pure _
    exact .bind made fun _ => .bind inductionHypothesis fun _ => .pure _

theorem makeMember_leaves (definition : Host.MemberDefinition) (declaring : Host.TypeKey)
    (access : Option Access) :
    Leaves relation (definition.make declaring access : Run Failure _) :=
  .bind (makeParameters_leaves _) fun _ => .pure _

theorem makeMembers_leaves (declaring : Host.TypeKey) (access : Option Access) (slot : Nat)
    (definitions : List Host.MemberDefinition) :
    Leaves relation (Host.makeMembers declaring access slot definitions : Run Failure _) := by
  induction definitions generalizing slot with
  | nil => exact .pure _
  | cons definition rest inductionHypothesis =>
    unfold Host.makeMembers
    refine .bind (makeMember_leaves definition declaring access) fun member => ?_
    split
    · exact .bind (inductionHypothesis _) fun _ => .pure _
    · exact .bind (inductionHypothesis _) fun _ => .pure _

theorem makeExplicit_leaves (definitions : List (Host.TypeKey × Host.MemberDefinition)) :
    Leaves relation (Host.makeExplicit definitions : Run Failure _) := by
  induction definitions with
  | nil => exact .pure _
  | cons definition rest inductionHypothesis =>
    exact .bind .types fun _ => .bind (makeMember_leaves definition.2 definition.1 _) fun _ =>
      .bind inductionHypothesis fun _ => .pure _

theorem makeType_leaves (key : Host.TypeKey) (definition : Host.TypeDefinition) :
    Leaves relation (definition.make key : Run Failure _) := by
  cases definition with
  | delegate name parameters result =>
    exact .bind (makeParameters_leaves parameters) fun _ => .pure _
  | declared declaration =>
    exact .bind (makeMembers_leaves key _ 0 declaration.members) fun _ =>
      .bind (makeExplicit_leaves declaration.explicit) fun _ => .pure _

/-- A run for every item of a list keeps to a relation if each does. -/
theorem forIn_leaves {Item : Type} {step : Item → Run Failure Unit}
    (each : ∀ item, Leaves relation (step item)) (items : List Item) :
    Leaves relation (forIn items PUnit.unit fun item _ => do
      step item
      pure (ForInStep.yield PUnit.unit) : Run Failure PUnit) := by
  induction items with
  | nil => exact .pure _
  | cons item rest inductionHypothesis =>
    rw [List.forIn_cons]
    refine .bind (.bind (each item) fun _ => .pure _) fun next => ?_
    cases next with
    | done => exact .pure _
    | yield => exact inductionHypothesis

end

theorem registerAll_sameModules {Failure : Type} (definitions : List Host.TypeDefinition) :
    Leaves World.SameModules (Host.registerAll definitions : Run Failure Unit) := by
  induction definitions with
  | nil => exact .pure _
  | cons definition rest inductionHypothesis =>
    refine .bind (.discard (.bind .types fun table => ?_)) fun _ => inductionHypothesis
    refine .bind (makeType_leaves _ definition) fun type => .bind .types fun table => ?_
    exact .bind (fun world => .of_same rfl) fun _ => .pure _

theorem makeObjects_sameModules {Failure : Type} (objects : List (String × Host.Literal)) :
    Leaves World.SameModules (makeObjects objects : Run Failure Unit) := by
  induction objects with
  | nil => exact .pure _
  | cons entry rest inductionHypothesis =>
    refine .bind (Host.Literal.evaluate_leaves entry.2) fun value => ?_
    exact .bind (fun world => .of_same rfl) fun _ => inductionHypothesis

/-- In a workspace as it starts, no engine has a module. -/
theorem Setup.modules_world (setup : Setup) (engine : EngineId) :
    setup.world.modules engine = {} := by
  have made : Leaves World.SameModules (setup.make : Run Unit Unit) := by
    refine .scope (.bind (registerAll_sameModules setup.types) fun _ => ?_)
    refine .bind (fun world => .of_same rfl) fun _ => .bind ?_ fun _ => ?_
    · exact forIn_leaves (fun engine world => sameModules_push world _ rfl) setup.engines
    · exact makeObjects_sameModules setup.objects
  exact made { store := { types := Host.Builtin.types } } engine

end Workspace

open Workspace

/-! ### Modules run once -/

/-- Whatever steps are taken from a world in which no module has been asked for yet, however deep
what they start goes: until an engine is disposed, the bodies of its modules run at most once to
completion and never inside themselves; what was told of them is told from then on; and the next
request passes a module that is recorded, answering undefined, and runs any other. -/
theorem modules_run_once (depth : Nat) {start : World}
    (fresh : ∀ engine, start.modules engine = {}) (steps : List Workspace.Step)
    (engine : EngineId) :
    let calls := startWithin depth
    let world := worldAfter calls steps start
    (world.modules engine).RunsOnce ∧
      (∀ later, (world.modules engine).chronicle <:+
        ((worldAfter calls later world).modules engine).chronicle) ∧
      (engine < world.engines.size → ∀ request : ModuleRequest,
        let outcome := (request.run calls engine).outcome world
        request.Goes calls engine world outcome ∧ (outcome.2.modules engine).RunsOnce) ∧
      ∀ (request : ModuleRequest) {specifier source},
        request.find (world.engine engine) = .ok (specifier, source) →
        (world.modules engine).has specifier = true →
        (request.answer calls engine).outcome world =
          (.ok .undefined, world.changeModules engine (·.pass specifier)) := by
  dsimp only
  have reach := startWithin_goesOn depth
  have empty : start.ModulesOrderly := fun engine => by
    rw [fresh]
    exact ModuleCache.empty_isOrderly
  obtain ⟨orderly, -⟩ := worldAfter_keepsOrder reach steps start empty
  refine ⟨(orderly engine).runsOnce, fun later => ?_, fun known request => ⟨?_, ?_⟩, ?_⟩
  · exact (worldAfter_keepsOrder reach later _ orderly).2 engine
  · exact request.goes reach orderly known
  · exact (((request.run_goesOn reach engine _).goOn orderly).1 engine).runsOnce
  · intro request specifier source found recorded
    refine ModuleRequest.outcome_answer_of_undefined ?_
    rw [ModuleRequest.outcome_run, found]
    dsimp only
    rw [if_pos recorded]
    rfl

/-- A workspace with two modules that import each other and one whose body fails. -/
def Workspace.Setup.cyclic : Setup where
  engines := [{ name := "main" }]
  scripts := [("first", .importModule "./second.js"), ("second", .importModule "../first.js"),
    ("failing", .raise (.string "failed"))]
  modules := some [("first.js", "first"), ("second.js", "second"), ("failing.js", "failing")]

/-- The module that is imported back is passed while it runs, both are passed once they have
completed, and the one that fails is run again. -/
theorem modules_run_once_of_cycle :
    let specifiers := ["first.js", "./other/../second.js", "failing.js", "failing.js"]
    let steps : List Workspace.Step :=
      specifiers.map fun specifier => ⟨"main", .importModule specifier, none⟩
    let world := worldAfter (startWithin 6) steps Setup.cyclic.world
    (world.modules 0).chronicle = [.failed "failing.js", .started "failing.js",
        .failed "failing.js", .started "failing.js", .passed "second.js", .completed "first.js",
        .completed "second.js", .passed "first.js", .started "second.js", .started "first.js"] ∧
      (world.modules 0).isEvaluated "first.js" = true ∧ (world.modules 0).RunsOnce := by
  refine ⟨?_, ?_, (modules_run_once 6 (Setup.modules_world Setup.cyclic) _ 0).1⟩
  · decide +kernel
  · decide +kernel

/-- A workspace whose engine loads no modules. -/
def Workspace.Setup.loaderless : Setup where
  engines := [{ name := "main" }]

/-- Without a loader, importing a module fails even after its body has completed. -/
theorem import_fails_without_loader :
    let world := worldAfter (startWithin 3) [⟨"main", .evaluateModule "a.js" "7", none⟩]
      Setup.loaderless.world
    (world.modules 0).isEvaluated "a.js" = true ∧
      ((importModule (startWithin 3) 0 "a.js" none).outcome world).1.toOption = none ∧
      ((runModuleSource (startWithin 3) 0 "a.js" "7").outcome world).1.toOption =
        some .undefined := by
  decide +kernel

end ScriptBridge
