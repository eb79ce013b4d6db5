/-
This file proves that the body of a module runs at most once to completion and
never inside itself, whatever the code and the host of a workspace do. Running code
keeps the modules of every engine in order, and a module whose body runs goes on
running through all that the body starts; so its record is still there when the
body ends, and is marked or removed then.
-/

import ScriptBridge.Proofs.CodeSteps
import ScriptBridge.Proofs.ModuleOrder

namespace ScriptBridge

open Run Script

variable {world before between after : World} {engine other : EngineId} {specifier : String}

/-! ### The modules of worlds -/

namespace World

/-- The modules of an engine. -/
def modules (world : World) (engine : EngineId) : ModuleCache := (world.engine engine).modules

/-- The world with the modules of an engine changed. -/
def changeModules (world : World) (engine : EngineId) (change : ModuleCache → ModuleCache) :
    World :=
  world.modifyEngine engine fun state => { state with modules := change state.modules }

/-- The modules of every engine are in order. -/
def ModulesOrderly (world : World) : Prop := ∀ engine, (world.modules engine).IsOrderly

/-- No engine has come or gone, the modules of every engine are still in order, and every module
that runs goes on running. -/
structure ModulesGoOn (before after : World) : Prop where
  size : after.engines.size = before.engines.size
  goOn : before.ModulesOrderly → after.ModulesOrderly ∧ ∀ engine specifier,
    ModuleCache.Sustains specifier (before.modules engine) (after.modules engine)

/-- What keeps the modules of engines lets them go on. -/
theorem KeepsModules.goOn (keeps : before.KeepsModules after) : before.ModulesGoOn after where
  size := keeps.size
  goOn orderly := by
    have same (engine : EngineId) : after.modules engine = before.modules engine :=
      keeps.modules engine
    refine ⟨fun engine => ?_, fun engine specifier => ?_⟩
    · rw [same]
      exact orderly engine
    · rw [same]
      exact .refl _

theorem ModulesGoOn.trans (first : before.ModulesGoOn between)
    (second : between.ModulesGoOn after) : before.ModulesGoOn after where
  size := second.size.trans first.size
  goOn orderly := by
    obtain ⟨inOrder, early⟩ := first.goOn orderly
    obtain ⟨still, late⟩ := second.goOn inOrder
    exact ⟨still, fun engine specifier => (early engine specifier).trans (late engine specifier)⟩

theorem modules_modifyEngine_self {change : Engine → Engine} (known : engine < world.engines.size) :
    (world.modifyEngine engine change).modules engine = (change (world.engine engine)).modules :=
  congrArg Engine.modules (engine_modifyEngine_self known)

theorem modules_modifyEngine_of_ne {change : Engine → Engine} (different : engine ≠ other) :
    (world.modifyEngine engine change).modules other = world.modules other :=
  congrArg Engine.modules (engine_modifyEngine_of_ne different)

theorem changeModules_id (world : World) (engine : EngineId) :
    world.changeModules engine id = world :=
  modifyEngine_id world engine

/-- A change of an engine lets the modules go on if it does so with those of the engine. -/
theorem ModulesGoOn.modifyEngine {change : Engine → Engine}
    (goOn : (world.modules engine).IsOrderly →
      (change (world.engine engine)).modules.IsOrderly ∧ ∀ specifier,
        ModuleCache.Sustains specifier (world.modules engine)
          (change (world.engine engine)).modules) :
    world.ModulesGoOn (world.modifyEngine engine change) := by
  rcases Nat.lt_or_ge engine world.engines.size with known | unknown
  · refine ⟨size_modifyEngine world engine change, fun orderly => ?_⟩
    obtain ⟨inOrder, sustains⟩ := goOn (orderly engine)
    refine ⟨fun other => ?_, fun other specifier => ?_⟩
    · by_cases same : engine = other
      · rw [← same, modules_modifyEngine_self known]
        exact inOrder
      · rw [modules_modifyEngine_of_ne same]
        exact orderly other
    · by_cases same : engine = other
      · rw [← same, modules_modifyEngine_self known]
        exact sustains specifier
      · rw [modules_modifyEngine_of_ne same]
        exact .refl _
  · rw [modifyEngine_of_size_le unknown]
    exact (KeepsModules.of_same rfl).goOn

theorem ModulesGoOn.close (world : World) (engine : EngineId) :
    world.ModulesGoOn (world.modifyEngine engine Engine.close) :=
  .modifyEngine fun orderly => ⟨orderly.dispose, fun _ => ModuleCache.dispose_sustains _⟩

theorem ModulesGoOn.dispose (world : World) (engine : EngineId) :
    world.ModulesGoOn (world.modifyEngine engine Engine.dispose) := by
  refine .modifyEngine fun orderly => ?_
  unfold Engine.dispose
  split
  · exact ⟨orderly, fun _ => .refl _⟩
  · exact ⟨orderly.dispose, fun _ => ModuleCache.dispose_sustains _⟩

end World

instance : RunRelation World.ModulesGoOn where
  refl _ := World.KeepsModules.goOn (.of_same rfl)
  trans := .trans
  held _ _ := World.KeepsModules.goOn (.of_same rfl)

instance : ChangeRelation World.ModulesGoOn where
  change change _ _ _ := change.keeps.modules.goOn

instance : StepRelation World.ModulesGoOn where
  step _ keeps _ _ _ := keeps.goOn
  connect := World.Connects.related fun _ keeps _ _ => keeps.goOn
  disconnect := World.Disconnects.related fun _ keeps _ _ => keeps.goOn
  convey _ _ makings _ _ := makings.related fun change _ _ => change.keeps.modules.goOn
  dispose := .dispose

/-! ### Modules that run -/

namespace World

/-- What a source text means as a module of an engine. -/
def prepared (world : World) (engine : EngineId) (specifier source : String) :
    Except ScriptError Compiled :=
  if (world.engine engine).isDisposed then .error (world.engine engine).disposedError
  else Source.compile world.scripts (.module specifier) source

/-- The world with a cell for a module that is about to run. -/
def withModuleCell (world : World) : World :=
  { (world.create .module).1 with held := world.store.cells.size :: world.held }

/-- The world with a module recorded whose body is about to run. -/
def starting (world : World) (engine : EngineId) (specifier : String) : World :=
  world.withModuleCell.changeModules engine (·.start specifier world.store.cells.size)

theorem keepsModules_withModuleCell (world : World) : world.KeepsModules world.withModuleCell :=
  .of_same rfl

end World

theorem outcome_requireAlive (engine : EngineId) (world : World) :
    (Bridge.requireAlive engine).outcome world =
      (if (world.engine engine).isDisposed then .error (.raised (world.engine engine).disposedError)
        else .ok (), world) := by
  show (if _ then raise _ else pure () : ScriptRun Unit).outcome world = _
  split
  · rfl
  · rfl

theorem outcome_prepareModule (engine : EngineId) (specifier source : String) (world : World) :
    (prepareModule engine specifier source).outcome world =
      ((world.prepared engine specifier source).mapError .raised, world) := by
  unfold prepareModule World.prepared
  rw [outcome_bind, outcome_requireAlive]
  by_cases gone : (world.engine engine).isDisposed = true
  · rw [if_pos gone, if_pos gone]
    rfl
  · rw [if_neg gone, if_neg gone]
    show (ofExcept (Source.compile _ _ _) : ScriptRun Compiled).outcome world = _
    cases Source.compile world.scripts (.module specifier) source <;> rfl

theorem outcome_settle_prepareModule (engine : EngineId) (specifier source : String)
    (world : World) :
    (settle (prepareModule engine specifier source) :
      ScriptRun (Except ScriptError Compiled)).outcome world =
        (.ok (world.prepared engine specifier source), world) := by
  rw [outcome_settle, outcome_prepareModule]
  cases world.prepared engine specifier source <;> rfl

/-- The body of a module runs with its record in place, which is marked or removed afterwards. -/
theorem outcome_runModule (calls : Calls) (engine : EngineId) (specifier : String)
    (compiled : Compiled) (world : World) :
    (runModule calls engine specifier compiled).outcome world =
      match (Bridge.frame engine .script (runCompiled calls engine (.module specifier)
          compiled)).outcome (world.starting engine specifier) with
      | (.ok value, inside) => (.ok value,
          inside.changeModules engine (·.complete specifier world.store.cells.size))
      | (.error (.raised error), inside) => (.error (.raised error),
          inside.changeModules engine (·.drop specifier))
      | (.error .exhausted, inside) => (.error .exhausted, inside) := by
  show (runRecorded calls engine world.store.cells.size specifier compiled).outcome
    (world.starting engine specifier) = _
  unfold runRecorded
  rw [outcome_bind, outcome_settle]
  rcases (Bridge.frame engine .script (runCompiled calls engine (.module specifier)
    compiled)).outcome (world.starting engine specifier) with ⟨(error | _) | value, inside⟩ <;> rfl

/-! ### Modules go on -/

namespace World

theorem modules_starting_self (known : engine < world.engines.size) (specifier : String) :
    (world.starting engine specifier).modules engine =
      (world.modules engine).start specifier world.store.cells.size :=
  modules_modifyEngine_self known

theorem modules_starting_of_ne (different : engine ≠ other) (specifier : String) :
    (world.starting engine specifier).modules other = world.modules other :=
  modules_modifyEngine_of_ne different

theorem size_starting (world : World) (engine : EngineId) (specifier : String) :
    (world.starting engine specifier).engines.size = world.engines.size :=
  size_modifyEngine world.withModuleCell engine _

theorem ModulesOrderly.starting (orderly : world.ModulesOrderly)
    (unknown : (world.modules engine).has specifier = false) :
    (world.starting engine specifier).ModulesOrderly := by
  intro other
  rcases Nat.lt_or_ge engine world.engines.size with known | missing
  · by_cases same : engine = other
    · subst same
      rw [modules_starting_self known]
      exact (orderly engine).start unknown
    · rw [modules_starting_of_ne same]
      exact orderly other
  · have begun : world.starting engine specifier = world.withModuleCell :=
      modifyEngine_of_size_le missing
    rw [begun]
    exact orderly other

/-- From the start of a module to the end of its body, and on to a change that is about that module
alone, the modules go on. -/
theorem ModulesGoOn.of_starting {inside : World} {change : ModuleCache → ModuleCache}
    (unknown : (world.modules engine).has specifier = false)
    (body : (world.starting engine specifier).ModulesGoOn inside)
    (told : ∀ modules : ModuleCache, modules.chronicle <:+ (change modules).chronicle)
    (inOrder : ∀ {modules : ModuleCache}, modules.IsOrderly → (.disposed ∉ modules.chronicle →
      modules.records.get? specifier = some ⟨world.store.cells.size, false⟩) →
        (change modules).IsOrderly ∧ ∀ {another}, another ≠ specifier →
          ModuleCache.Sustains another modules (change modules)) :
    world.ModulesGoOn (inside.changeModules engine change) := by
  rcases Nat.lt_or_ge engine world.engines.size with known | missing
  · have size := body.size.trans (size_starting world engine specifier)
    have still : engine < inside.engines.size := size ▸ known
    refine ⟨(size_modifyEngine inside engine _).trans size, fun orderly => ?_⟩
    obtain ⟨left, sustains⟩ := body.goOn (orderly.starting unknown)
    have own := sustains engine
    rw [modules_starting_self known] at own
    obtain ⟨ended, others⟩ := inOrder (left engine) (own specifier).record
    refine ⟨fun other => ?_, fun other another => ?_⟩
    · by_cases same : engine = other
      · subst same
        exact modules_modifyEngine_self still ▸ ended
      · unfold changeModules
        rw [modules_modifyEngine_of_ne same]
        exact left other
    · by_cases same : engine = other
      · subst same
        unfold changeModules
        rw [modules_modifyEngine_self still]
        refine .of_start (orderly engine) unknown ((own another).told.trans (told _)) ?_ another
        exact fun different => (own _).trans (others different)
      · unfold changeModules
        rw [modules_modifyEngine_of_ne same]
        have elsewhere := sustains other another
        rwa [modules_starting_of_ne same] at elsewhere
  · have begun : world.starting engine specifier = world.withModuleCell :=
      modifyEngine_of_size_le missing
    rw [begun] at body
    have goesOn := world.keepsModules_withModuleCell.goOn.trans body
    unfold changeModules
    rw [modifyEngine_of_size_le (goesOn.size ▸ missing)]
    exact goesOn

end World

/-- Asking for a module under its specifier in one form: one that is recorded is passed, one that
cannot be prepared is refused, and any other runs. -/
theorem outcome_runModuleSource (calls : Calls) (engine : EngineId) (specifier source : String)
    (world : World) :
    (runModuleSource calls engine specifier source).outcome world = world.endScope
      (if (world.modules engine).has specifier then
        (.ok .undefined, world.changeModules engine (·.pass specifier))
      else match world.prepared engine specifier source with
        | .ok compiled => (runModule calls engine specifier compiled).outcome world
        | .error error =>
          (.error (.raised error), world.changeModules engine (·.refuse specifier))) := by
  unfold runModuleSource
  rw [outcome_scope]
  refine congrArg world.endScope (?_ : Run.outcome _ world = _)
  show (if (world.modules engine).has specifier then passModule engine specifier
    else settle (prepareModule engine specifier source) >>= _ : ScriptRun Value).outcome world = _
  split
  · rfl
  · rw [outcome_bind, outcome_settle_prepareModule]
    cases world.prepared engine specifier source <;> rfl

namespace Script

variable {calls : Calls}

theorem runModule_goesOn (reach : calls.Reach World.ModulesGoOn) {compiled : Compiled}
    (unknown : (world.modules engine).has specifier = false) :
    world.ModulesGoOn ((runModule calls engine specifier compiled).outcome world).2 := by
  have body := Bridge.frame_reaches engine .script
    (runCompiled_reaches reach engine (.module specifier) compiled)
    (world.starting engine specifier)
  rw [outcome_runModule]
  rcases ran : (Bridge.frame engine .script (runCompiled calls engine (.module specifier)
    compiled)).outcome (world.starting engine specifier) with ⟨(error | _) | value, inside⟩
  · rw [ran] at body
    exact .of_starting unknown body (fun _ => List.suffix_cons _ _) fun orderly found =>
      ⟨orderly.drop found, ModuleCache.drop_sustains _⟩
  · rw [ran] at body
    have goesOn : world.ModulesGoOn (inside.changeModules engine id) :=
      .of_starting unknown body (fun _ => List.suffix_rfl) fun orderly _ =>
        ⟨orderly, fun _ => .refl _⟩
    rwa [World.changeModules_id] at goesOn
  · rw [ran] at body
    exact .of_starting unknown body (fun _ => List.suffix_cons _ _) fun orderly found =>
      ⟨orderly.complete found, fun different => ModuleCache.complete_sustains different found⟩

end Script

/-! ### Requests -/

/-- A request for a module: to import a specifier, met in a document with another, or to evaluate a
source text under one. -/
inductive ModuleRequest
  | importing (specifier : String) (referrer : Option String)
  | evaluating (specifier source : String)

namespace ModuleRequest

/-- What is asked of an engine: the specifier in its one form, and the source text if there is
one. -/
def find (state : Engine) : ModuleRequest → Except ScriptError (String × Except ScriptError String)
  | importing specifier referrer =>
    match state.loader with
    | none => .error (.notSupported "no module loader is configured")
    | some loader =>
      (loader.normalize specifier referrer).map fun normalized =>
        (normalized, loader.load normalized)
  | evaluating specifier source =>
    (state.normalize specifier).map fun normalized => (normalized, .ok source)

/-- Carries out a request. -/
def run (calls : Calls) (engine : EngineId) : ModuleRequest → ScriptRun Script.Value
  | importing specifier referrer => importModule calls engine specifier referrer
  | evaluating specifier source => do
    let normalized ← ofExcept ((← Run.engine engine).normalize specifier)
    runModuleSource calls engine normalized source

/-- A module that is recorded is passed, one that cannot be prepared is refused, and any other
runs. -/
theorem outcome_run (calls : Calls) (engine : EngineId) (request : ModuleRequest)
    (world : World) :
    (request.run calls engine).outcome world =
      match request.find (world.engine engine) with
      | .error error => (.error (.raised error), world)
      | .ok (specifier, source) => world.endScope
        (if (world.modules engine).has specifier then
          (.ok .undefined, world.changeModules engine (·.pass specifier))
        else match source >>= world.prepared engine specifier with
          | .ok compiled => (runModule calls engine specifier compiled).outcome world
          | .error error =>
            (.error (.raised error), world.changeModules engine (·.refuse specifier))) := by
  cases request with
  | evaluating specifier source =>
    show (ofExcept ((world.engine engine).normalize specifier) >>= _ :
      ScriptRun Script.Value).outcome world = _
    dsimp only [find]
    cases (world.engine engine).normalize specifier with
    | error error => rfl
    | ok normalized => exact outcome_runModuleSource calls engine normalized source world
  | importing specifier referrer =>
    show (importModule calls engine specifier referrer).outcome world = _
    unfold importModule Run.engine
    rw [outcome_bind_of_ok (outcome_observe _ _)]
    dsimp only [find]
    cases (world.engine engine).loader with
    | none => rfl
    | some loader =>
      dsimp only
      cases loader.normalize specifier referrer with
      | error error => rfl
      | ok normalized =>
        rw [outcome_bind_of_ok (outcome_ofExcept_ok _ _)]
        dsimp only [Except.map]
        by_cases known : (world.modules engine).has normalized = true
        · have recorded : (world.engine engine).modules.has normalized = true := known
          rw [if_pos recorded, if_pos known]
          rfl
        · have missing : ¬(world.engine engine).modules.has normalized = true := known
          rw [if_neg missing, if_neg known]
          cases loader.load normalized with
          | error error => rfl
          | ok source =>
            refine (outcome_runModuleSource calls engine normalized source world).trans ?_
            rw [if_neg known]
            rfl

/-- Whatever is requested, the modules go on. -/
theorem run_goesOn {calls : Calls} (reach : calls.Reach World.ModulesGoOn) (engine : EngineId)
    (request : ModuleRequest) : Leaves World.ModulesGoOn (request.run calls engine) := by
  intro world
  rw [outcome_run]
  split
  · exact RunRelation.refl world
  · next specifier source _ =>
    refine .trans ?_ (RunRelation.held _ _)
    split
    · next known =>
      exact .modifyEngine fun orderly =>
        ⟨orderly.pass known, fun _ => ModuleCache.pass_sustains _ specifier⟩
    · next missing =>
      have unknown := Bool.eq_false_iff.mpr missing
      split
      · exact Script.runModule_goesOn reach unknown
      · exact .modifyEngine fun orderly =>
          ⟨orderly.refuse unknown, fun _ => ModuleCache.refuse_sustains orderly unknown⟩

/-- What the host is answered. -/
def answer (calls : Calls) (engine : EngineId) (request : ModuleRequest) :
    ScriptRun Host.Value := do
  Bridge.toHostValue engine (← held (request.run calls engine))

theorem answer_goesOn {calls : Calls} (reach : calls.Reach World.ModulesGoOn) (engine : EngineId)
    (request : ModuleRequest) : Leaves World.ModulesGoOn (request.answer calls engine) :=
  .bind (.held (run_goesOn reach engine request)) fun _ => Bridge.toHostValue_leaves engine _

/-- The host is answered undefined where script is. -/
theorem outcome_answer_of_undefined {calls : Calls} {request : ModuleRequest}
    (ran : (request.run calls engine).outcome world = (.ok .undefined, after)) :
    (request.answer calls engine).outcome world = (.ok .undefined, after) := by
  have inUse := outcome_held_eq_ok.mpr ⟨after, ran, rfl⟩
  unfold answer
  rw [outcome_bind_of_ok inUse]
  rfl

/-- The host evaluates modules by requests. -/
theorem evaluateModule_eq (calls : Calls) (engine : EngineId) (specifier source : String) :
    evaluateModule calls engine specifier source =
      scope ((evaluating specifier source).answer calls engine) := by
  unfold evaluateModule answer run held
  simp only [bind_assoc]

end ModuleRequest

/-- Within every depth, whatever code starts lets the modules go on. -/
theorem Script.startWithin_goesOn (depth : Nat) :
    (startWithin depth).Reach World.ModulesGoOn := by
  induction depth with
  | zero => exact Calls.exhausted_reach
  | succ depth inductionHypothesis =>
    exact startFrom_reach inductionHypothesis fun engine specifier referrer =>
      ModuleRequest.run_goesOn inductionHypothesis engine (.importing specifier referrer)

/-! ### How requests go -/

/-- The event that ends a body. -/
def endingOf {Result : Type} (specifier : String) :
    Except (Halt ScriptError) Result → List ModuleEvent
  | .ok _ => [.completed specifier]
  | .error (.raised _) => [.failed specifier]
  | .error .exhausted => []

/-- How the run of a module goes that leaves an outcome: the result is that of the body, the module
is only passed between its start and its end, and unless the engine is disposed meanwhile, it has
completed afterwards or is not recorded. -/
structure World.RunsModule (world : World) (engine : EngineId) (specifier : String)
    (body : Except (Halt ScriptError) Script.Value × World)
    (outcome : Except (Halt ScriptError) Script.Value × World) : Prop where
  result : outcome.1 = body.1
  told : ∃ events, (outcome.2.modules engine).chronicle =
      endingOf specifier outcome.1 ++ events ++
        .started specifier :: (world.modules engine).chronicle ∧
    (.disposed ∉ (outcome.2.modules engine).chronicle → ∀ event ∈ events,
      event.specifier? = some specifier → event = .passed specifier)
  completed : .disposed ∉ (outcome.2.modules engine).chronicle → ∀ {value},
    outcome.1 = .ok value → (outcome.2.modules engine).isEvaluated specifier = true
  failed : .disposed ∉ (outcome.2.modules engine).chronicle → ∀ {error},
    outcome.1 = .error (.raised error) → (outcome.2.modules engine).has specifier = false

/-- How a request goes. -/
structure ModuleRequest.Goes (request : ModuleRequest) (calls : Calls) (engine : EngineId)
    (world : World) (outcome : Except (Halt ScriptError) Script.Value × World) : Prop where
  /-- Without a loader, or a specifier in one form, nothing happens. -/
  unresolved : ∀ {error}, request.find (world.engine engine) = .error error →
    outcome = (.error (.raised error), world)
  /-- A module that is recorded is passed: nothing is compiled or run. -/
  passed : ∀ {specifier source}, request.find (world.engine engine) = .ok (specifier, source) →
    (world.modules engine).has specifier = true →
    outcome = (.ok .undefined, world.changeModules engine (·.pass specifier))
  /-- One that cannot be loaded or compiled leaves no record. -/
  refused : ∀ {specifier source error},
    request.find (world.engine engine) = .ok (specifier, source) →
    (world.modules engine).has specifier = false →
    (source >>= world.prepared engine specifier) = .error error →
    outcome = (.error (.raised error), world.changeModules engine (·.refuse specifier))
  /-- Any other runs. -/
  ran : ∀ {specifier source compiled},
    request.find (world.engine engine) = .ok (specifier, source) →
    (world.modules engine).has specifier = false →
    (source >>= world.prepared engine specifier) = .ok compiled →
    world.RunsModule engine specifier
      ((Bridge.frame engine .script (runCompiled calls engine (.module specifier)
        compiled)).outcome (world.starting engine specifier)) outcome

/-- A run goes as told if the modules are in order after it and its end is noted. -/
theorem World.RunsModule.of_inside {inside : World} {change : ModuleCache → ModuleCache}
    {result : Except (Halt ScriptError) Script.Value} {cell : CellId}
    (known : engine < inside.engines.size)
    (sustains : ModuleCache.Sustains specifier ((world.modules engine).start specifier cell)
      (inside.modules engine))
    (ends : (change (inside.modules engine)).chronicle =
      endingOf specifier result ++ (inside.modules engine).chronicle)
    (orderly : (inside.changeModules engine change).ModulesOrderly) :
    world.RunsModule engine specifier (result, inside)
      (result, inside.changeModules engine change) := by
  have left : (inside.changeModules engine change).modules engine =
      change (inside.modules engine) := modules_modifyEngine_self known
  have inOrder := orderly engine
  have running : stateAfter specifier ((world.modules engine).start specifier cell).chronicle =
      .running := if_pos rfl
  obtain ⟨events, told, passed⟩ := sustains
  refine ⟨rfl, ⟨events, ?_, fun undisposed => ?_⟩, ?_, ?_⟩
  · dsimp only
    rw [left, ends, told, List.append_assoc]
    rfl
  · refine (passed running fun member => undisposed ?_).1
    dsimp only
    rw [left, ends]
    exact List.mem_append_right _ member
  · rintro undisposed value rfl
    refine (inOrder.isEvaluated_iff undisposed).mpr ?_
    rw [left, ends]
    exact if_pos rfl
  · rintro undisposed error rfl
    refine Bool.eq_false_iff.mpr fun recorded => (inOrder.has_iff undisposed).mp recorded ?_
    rw [left, ends]
    exact if_pos rfl

/-- Which cells are in use afterwards does not matter. -/
theorem World.RunsModule.endScope {body outcome : Except (Halt ScriptError) Script.Value × World}
    (runs : world.RunsModule engine specifier body outcome) :
    world.RunsModule engine specifier body (world.endScope outcome) where
  result := runs.result
  told := runs.told
  completed := runs.completed
  failed := runs.failed

/-- A module that is not recorded runs. -/
theorem runModule_runs {calls : Calls} (reach : calls.Reach World.ModulesGoOn)
    (orderly : world.ModulesOrderly) (known : engine < world.engines.size)
    (unknown : (world.modules engine).has specifier = false) (compiled : Compiled) :
    world.RunsModule engine specifier
      ((Bridge.frame engine .script (runCompiled calls engine (.module specifier)
        compiled)).outcome (world.starting engine specifier))
      ((runModule calls engine specifier compiled).outcome world) := by
  have body := Bridge.frame_reaches engine .script
    (runCompiled_reaches reach engine (.module specifier) compiled)
    (world.starting engine specifier)
  have own := (body.goOn (orderly.starting unknown)).2 engine specifier
  rw [World.modules_starting_self known] at own
  have size := body.size.trans (World.size_starting world engine specifier)
  rw [← size] at known
  have goesOn : world.ModulesGoOn ((runModule calls engine specifier compiled).outcome world).2 :=
    Script.runModule_goesOn reach unknown
  have left := (goesOn.goOn orderly).1
  rw [outcome_runModule] at left ⊢
  rcases ran : (Bridge.frame engine .script (runCompiled calls engine (.module specifier)
    compiled)).outcome (world.starting engine specifier) with ⟨(error | _) | value, inside⟩
  · rw [ran] at own known left
    exact .of_inside known own rfl left
  · rw [ran] at own known left
    have kept : (inside.changeModules engine id).ModulesOrderly := by
      rwa [World.changeModules_id]
    have ends : (id (inside.modules engine)).chronicle = (endingOf specifier
        (.error .exhausted : Except (Halt ScriptError) Script.Value)) ++
          (inside.modules engine).chronicle := rfl
    have runs := World.RunsModule.of_inside known own ends kept
    rwa [World.changeModules_id] at runs
  · rw [ran] at own known left
    exact .of_inside known own rfl left

theorem ModuleRequest.goes {calls : Calls} (reach : calls.Reach World.ModulesGoOn)
    (orderly : world.ModulesOrderly) (known : engine < world.engines.size)
    (request : ModuleRequest) :
    request.Goes calls engine world ((request.run calls engine).outcome world) := by
  rw [outcome_run]
  constructor
  · intro error unresolved
    rw [unresolved]
  · intro specifier source found recorded
    rw [found]
    dsimp only
    rw [if_pos recorded]
    rfl
  · intro specifier source error found unknown refused
    rw [found]
    dsimp only
    rw [if_neg (Bool.eq_false_iff.mp unknown), refused]
    rfl
  · intro specifier source compiled found unknown prepared
    rw [found]
    dsimp only
    rw [if_neg (Bool.eq_false_iff.mp unknown), prepared]
    exact (runModule_runs reach orderly known unknown compiled).endScope

end ScriptBridge
