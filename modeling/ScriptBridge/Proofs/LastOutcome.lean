/-
This file proves what an engine records of the calls that the host makes of it. A
frame that is the outermost records how its body ended, so a call that comes to run
in one leaves its own outcome behind. A call that ends before that, since the engine
is disposed or the module it asks for is recorded already or cannot be prepared,
leaves the outcome of the call before it. Either way the engine is idle, whatever
calls of engines came earlier.
-/

import ScriptBridge.Proofs.SessionOrder
import ScriptBridge.Proofs.WorkspaceSteps

namespace ScriptBridge

open Run Bridge Script Workspace

variable {engine : EngineId} {world : World} {Result Next : Type}

/-! ### What is recorded of a run -/

/-- Once the run has ended, the engine's outcome is what is told of its failure. -/
def Tells (engine : EngineId) (told : Option ScriptError → SessionState) :
    Except (Halt ScriptError) Result × World → Prop
  | (.ok _, after) => (after.session engine).outcome = told none
  | (.error (.raised error), after) => (after.session engine).outcome = told (some error)
  | (.error .exhausted, _) => True

/-- The outcome of a failure or none if a frame of the engine was run, and otherwise the one that
was recorded before. -/
def World.toldIf (world : World) (engine : EngineId) (ran : Bool) (failure : Option ScriptError) :
    SessionState :=
  if ran then Session.outcomeOf failure else (world.session engine).outcome

namespace Tells

variable {told : Option ScriptError → SessionState}

/-- What leaves the session alone leaves the outcome that there was. -/
theorem of_same {outcome : Except (Halt ScriptError) Result × World}
    (same : outcome.2.session engine = world.session engine) :
    Tells engine (world.toldIf engine false) outcome := by
  obtain ⟨(error | _) | result, after⟩ := outcome
  · exact congrArg Session.outcome same
  · trivial
  · exact congrArg Session.outcome same

theorem endScope {outcome : Except (Halt ScriptError) Result × World}
    (tells : Tells engine told outcome) : Tells engine told (world.endScope outcome) := by
  obtain ⟨(error | _) | result, after⟩ := outcome <;> exact tells

theorem scope {run : ScriptRun Result} (tells : Tells engine told (run.outcome world)) :
    Tells engine told ((Run.scope run).outcome world) := by
  rw [outcome_scope]
  exact tells.endScope

/-- What comes after a run quietly tells nothing else. -/
theorem bind_quiet {run : ScriptRun Result} {next : Result → ScriptRun Next}
    (tells : Tells engine told (run.outcome world)) (quiet : ∀ result, (next result).IsQuiet) :
    Tells engine told ((run >>= next).outcome world) := by
  rw [outcome_bind]
  rcases ran : run.outcome world with ⟨(error | _) | result, after⟩
  · rwa [ran] at tells
  · trivial
  · rw [ran] at tells
    obtain ⟨last, later, went, keeps⟩ := quiet result after
    show Tells engine told ((next result).outcome after)
    rw [went]
    exact (congrArg Session.outcome (keeps.session engine)).trans tells

theorem held [HoldsCells Result] {run : ScriptRun Result}
    (tells : Tells engine told (run.outcome world)) :
    Tells engine told ((Run.held run).outcome world) :=
  tells.bind_quiet fun _ => .hold _

theorem discard {run : ScriptRun Result} (tells : Tells engine told (run.outcome world)) :
    Tells engine told ((Functor.discard run).outcome world) :=
  tells.bind_quiet fun _ => .pure ()

end Tells

/-- A value of script is always taken, and the sessions are left alone. -/
theorem toHostValue_isQuiet (engine : EngineId) (value : Script.Value) :
    (toHostValue engine value : ScriptRun Host.Value).IsQuiet := by
  intro world
  obtain ⟨host, after, ran⟩ := outcome_toHostValue_total engine value world
  have grows : Leaves Grows (toHostValue engine value : ScriptRun Host.Value) :=
    toHostValue_grows engine value
  exact ⟨host, after, ran, Grows.keepsSessions (grows.along ran)⟩

/-- What the host is given of a run is told as the run is. -/
theorem Tells.toHost {told : Option ScriptError → SessionState} {run : ScriptRun Script.Value}
    (tells : Tells engine told (run.outcome world)) :
    Tells engine told ((do toHostValue engine (← Run.held run) : ScriptRun Host.Value).outcome world) :=
  tells.held.bind_quiet (toHostValue_isQuiet engine)

/-! ### Outermost frames -/

/-- The outermost frame records how its body ended. -/
theorem frame_tells [HoldsCells Result] (known : engine < world.engines.size)
    (idle : (world.session engine).depth = 0) (kind : FrameKind) {body : ScriptRun Result}
    (balances : Leaves Balances body) :
    Tells engine Session.outcomeOf ((frame engine kind body).outcome world) := by
  obtain ⟨entered, enters, agrees, one⟩ := Session.enter_of_depth_eq_zero idle kind
  have inside : Leaves Balances (polledBody entered body) :=
    .settle (.scope (.bind (.ofExcept _) fun _ => balances))
  rcases ran : (polledBody entered body).outcome (world.withSession engine entered) with
    ⟨halt | outcome, after⟩
  · rw [outcome_frame_stuck enters ran]
    trivial
  · obtain ⟨size, returns⟩ := inside.along ran rfl
    rw [World.size_withSession] at size
    have back := returns engine
    rw [World.session_withSession_self known] at back
    have outermost : (after.session engine).depth = 1 := by
      unfold Session.depth at one ⊢
      rw [(back agrees).1, one]
    obtain ⟨left, leaves, -, -, -, recorded, -⟩ :=
      Session.leave_of_outermost outermost (failure? outcome)
    obtain ⟨last, ended, keeps, -⟩ := outcome_frame_left enters ran
    have tells : (last.session engine).outcome = Session.outcomeOf (failure? outcome) := by
      rw [keeps.session, World.session_withSession_self (size ▸ known), leaves]
      exact recorded
    rw [ended]
    cases outcome <;> exact tells

/-! ### Requests for modules -/

theorem World.keepsSessions_changeModules (world : World) (engine : EngineId)
    (change : ModuleCache → ModuleCache) :
    world.KeepsSessions (world.changeModules engine change) :=
  world.keepsSessions_modifyEngine engine fun _ => rfl

theorem World.keepsSessions_starting (world : World) (engine : EngineId) (specifier : String) :
    world.KeepsSessions (world.starting engine specifier) :=
  RunRelation.trans (.of_same rfl rfl : world.KeepsSessions world.withModuleCell)
    (world.withModuleCell.keepsSessions_changeModules engine _)

/-- The run of a module records how its body ended. -/
theorem runModule_tells {calls : Calls} (reach : calls.Reach Balances)
    (known : engine < world.engines.size) (idle : (world.session engine).depth = 0)
    (specifier : String) (compiled : Compiled) :
    Tells engine Session.outcomeOf ((runModule calls engine specifier compiled).outcome world) := by
  have keeps := world.keepsSessions_starting engine specifier
  have body := frame_tells (keeps.size ▸ known) ((keeps.session engine).symm ▸ idle) .script
    (runCompiled_reaches reach engine (.module specifier) compiled)
  have passes (inside : World) (change : ModuleCache → ModuleCache) :
      ((inside.changeModules engine change).session engine).outcome =
        (inside.session engine).outcome :=
    congrArg Session.outcome ((inside.keepsSessions_changeModules engine change).session engine)
  rw [outcome_runModule]
  rcases ran : (frame engine .script (runCompiled calls engine (.module specifier)
    compiled)).outcome (world.starting engine specifier) with ⟨(error | _) | value, inside⟩
  · rw [ran] at body
    exact (passes inside _).trans body
  · trivial
  · rw [ran] at body
    exact (passes inside _).trans body

namespace ModuleRequest

/-- Does the request come to run a module? It does when what is asked for is found and not recorded,
and there is a source text that compiles. -/
def starts (world : World) (engine : EngineId) (request : ModuleRequest) : Bool :=
  match request.find (world.engine engine) with
  | .error _ => false
  | .ok (specifier, source) =>
    !(world.modules engine).has specifier && (source >>= world.prepared engine specifier).isOk

/-- A request that comes to run a module records how that ended, and any other records nothing. -/
theorem run_tells {calls : Calls} (reach : calls.Reach Balances)
    (known : engine < world.engines.size) (idle : (world.session engine).depth = 0)
    (request : ModuleRequest) :
    Tells engine (world.toldIf engine (request.starts world engine))
      ((request.run calls engine).outcome world) := by
  rw [outcome_run]
  unfold starts
  cases request.find (world.engine engine) with
  | error error => exact .of_same rfl
  | ok found =>
    obtain ⟨specifier, source⟩ := found
    refine .endScope ?_
    have untouched (change : ModuleCache → ModuleCache) :
        (world.changeModules engine change).session engine = world.session engine :=
      (world.keepsSessions_changeModules engine change).session engine
    by_cases recorded : (world.modules engine).has specifier = true
    · simp only [recorded]
      exact .of_same (untouched _)
    · simp only [recorded]
      cases source >>= world.prepared engine specifier with
      | error error => exact .of_same (untouched _)
      | ok compiled => exact runModule_tells reach known idle specifier compiled

end ModuleRequest

/-! ### Calls of the host -/

/-- A call that the host makes of an engine. -/
inductive HostCall
  | evaluate (source : String)
  | evaluateDocument (document : Document) (source : String)
  | execute (source : String)
  | evaluateModule (specifier source : String)
  | importModule (specifier : String)
  | invoke (name : String) (arguments : List Host.Value)
  | withScope (body : Script.Code)

namespace HostCall

/-- Carries out a call. What it yields does not matter here. -/
def run (calls : Calls) (engine : EngineId) : HostCall → ScriptRun Unit
  | evaluate source => discard (Script.evaluate calls engine source)
  | evaluateDocument document source =>
    discard (Script.evaluateDocument calls engine document source)
  | execute source => discard (runScript calls engine source)
  | evaluateModule specifier source =>
    discard (Script.evaluateModule calls engine specifier source)
  | importModule specifier => discard do
    toHostValue engine (← held (Script.importModule calls engine specifier none))
  | invoke name arguments => discard (invokeGlobal calls engine name arguments)
  | withScope body => discard (runScope calls engine body)

/-- Does the call come to a frame of the engine? One that runs script does unless the engine is
disposed, one that asks for a module if it comes to run it, and a global is called in any case. -/
def starts (world : World) (engine : EngineId) : HostCall → Bool
  | evaluate _ | execute _ | withScope _ => !(world.engine engine).isDisposed
  | evaluateDocument document source =>
    if document.isModule then
      (ModuleRequest.evaluating (document.specifier.getD document.name) source).starts world engine
    else !(world.engine engine).isDisposed
  | evaluateModule specifier source =>
    (ModuleRequest.evaluating specifier source).starts world engine
  | importModule specifier => (ModuleRequest.importing specifier none).starts world engine
  | invoke _ _ => true

end HostCall

section

variable {calls : Calls}

/-- Whatever the host calls goes on by steps. -/
theorem HostCall.run_reaches {steps : Conduct} [ModuleConduct steps] (reach : calls.Reach steps)
    (engine : EngineId) (call : HostCall) : Leaves steps (call.run calls engine) := by
  have requests (engine : EngineId) (request : ModuleRequest) :
      Leaves steps (request.answer calls engine) :=
    request.answer_reaches reach engine
  cases call with
  | evaluate source => exact .discard (evaluate_reaches reach engine source)
  | evaluateDocument document source =>
    exact .discard (evaluateDocument_leaves reach requests engine document source)
  | execute source => exact .discard (runScript_reaches reach engine source)
  | evaluateModule specifier source =>
    exact .discard (evaluateModule_leaves requests engine specifier source)
  | importModule specifier => exact .discard (requests engine (.importing specifier none))
  | invoke name arguments => exact .discard (invokeGlobal_reaches reach engine name arguments)
  | withScope body => exact .discard (runScope_reaches reach engine body)

/-- The next document of an engine is found without a look at anything else. -/
theorem outcome_nextDocument (engine : EngineId) (world : World) :
    ∃ document after, (nextDocument engine).outcome world = (.ok document, after) ∧
      world.KeepsSessions after ∧
      (after.engine engine).isDisposed = (world.engine engine).isDisposed := by
  have still := @World.part_modifyEngine _ Engine.isDisposed world engine
    (fun state => { state with documents := state.documents + 1 }) (fun _ => rfl) engine
  exact ⟨_, _, rfl, world.keepsSessions_modifyEngine engine fun _ => rfl, still⟩

/-- What asks first whether the engine is disposed runs if it is not. -/
theorem tells_of_requireAlive {next : ScriptRun Result}
    (tells : Tells engine Session.outcomeOf (next.outcome world)) :
    Tells engine (world.toldIf engine !(world.engine engine).isDisposed)
      ((requireAlive engine >>= fun _ => next).outcome world) := by
  rw [outcome_bind, outcome_requireAlive]
  cases (world.engine engine).isDisposed with
  | true => exact .of_same rfl
  | false => exact tells

section

variable (reach : calls.Reach Balances) (known : engine < world.engines.size)
  (idle : (world.session engine).depth = 0)
include reach known idle

theorem runDocument_tells (document : Document) (source : String) :
    Tells engine (world.toldIf engine !(world.engine engine).isDisposed)
      ((runDocument calls engine document source).outcome world) :=
  tells_of_requireAlive (frame_tells known idle .script (.bind (compile_leaves document source)
    fun compiled => runCompiled_reaches reach engine document compiled))

theorem runScript_tells (source : String) :
    Tells engine (world.toldIf engine !(world.engine engine).isDisposed)
      ((runScript calls engine source).outcome world) := by
  obtain ⟨document, between, ran, keeps, open'⟩ := outcome_nextDocument engine world
  have tells := runDocument_tells reach (keeps.size ▸ known)
    ((congrArg Session.depth (keeps.session engine)).trans idle) document source
  unfold runScript
  rw [outcome_bind_of_ok ran]
  unfold World.toldIf at tells ⊢
  rwa [keeps.session, open'] at tells

theorem runScope_tells (body : Script.Code) :
    Tells engine (world.toldIf engine !(world.engine engine).isDisposed)
      ((runScope calls engine body).outcome world) := by
  refine tells_of_requireAlive ?_
  obtain ⟨document, between, ran, keeps, -⟩ := outcome_nextDocument engine world
  rw [outcome_bind_of_ok ran]
  exact frame_tells (keeps.size ▸ known)
    ((congrArg Session.depth (keeps.session engine)).trans idle) .script
    (inLocals_reaches (Code.run_reaches reach _ body))

theorem invokeGlobal_tells (name : String) (arguments : List Host.Value) :
    Tells engine Session.outcomeOf
      ((invokeGlobal calls engine name arguments).outcome world) := by
  refine Tells.toHost (frame_tells known idle .script (.bind (.engine engine) fun state => ?_))
  split
  · exact .raise _
  · exact .bind (.hold _) fun callee => .bind (marshalAll_reaches reach engine arguments) fun _ =>
      Binding.callValue_reaches reach engine callee _

/-- A call that comes to a frame of its engine leaves its own outcome recorded, and any other the
outcome that was. -/
theorem HostCall.run_tells (call : HostCall) :
    Tells engine (world.toldIf engine (call.starts world engine))
      ((call.run calls engine).outcome world) := by
  have requests (request : ModuleRequest) :
      Tells engine (world.toldIf engine (request.starts world engine))
        ((request.answer calls engine).outcome world) :=
    (request.run_tells reach known idle).toHost
  have modules (specifier source : String) :
      Tells engine
        (world.toldIf engine ((ModuleRequest.evaluating specifier source).starts world engine))
        ((Script.evaluateModule calls engine specifier source).outcome world) := by
    rw [ModuleRequest.evaluateModule_eq]
    exact (requests _).scope
  cases call with
  | evaluate source => exact (runScript_tells reach known idle source).toHost.scope.discard
  | evaluateDocument document source =>
    refine Tells.discard ?_
    simp only [Script.evaluateDocument, starts]
    by_cases module : document.isModule = true
    · rw [if_pos module, if_pos module]
      exact modules _ source
    · rw [if_neg module, if_neg module]
      exact (runDocument_tells reach known idle document source).toHost.scope
  | execute source => exact (runScript_tells reach known idle source).discard
  | evaluateModule specifier source => exact (modules specifier source).discard
  | importModule specifier => exact (requests (.importing specifier none)).discard
  | invoke name arguments => exact (invokeGlobal_tells reach known idle name arguments).discard
  | withScope body => exact (runScope_tells reach known idle body).discard

end

end

/-! ### Calls one after another -/

/-- Calls of engines, one after another. What they yield or fail with does not matter to those that
come later. -/
def runAll (calls : Calls) : List (EngineId × HostCall) → ScriptRun Unit
  | [] => pure ()
  | (engine, call) :: rest => do
    let _ ← (settle (call.run calls engine) : ScriptRun (Except ScriptError Unit))
    runAll calls rest

theorem runAll_reaches {steps : Conduct} [ModuleConduct steps] {calls : Calls}
    (reach : calls.Reach steps) (earlier : List (EngineId × HostCall)) :
    Leaves steps (runAll calls earlier) := by
  induction earlier with
  | nil => exact .pure ()
  | cons first rest inductionHypothesis =>
    exact .bind (.settle (first.2.run_reaches reach first.1)) fun _ => inductionHypothesis

/-- Whatever calls of engines came before, a call of an engine that was idle leaves it idle. The
outcome that is recorded then is the one of the call if it came to a frame of the engine, and
otherwise the one that was recorded before. -/
theorem host_calls_record_their_outcome (depth : Nat) {engine : EngineId} {start world after : World}
    {earlier : List (EngineId × HostCall)} {call : HostCall} {result : Except ScriptError Unit}
    (known : engine < start.engines.size) (sound : (start.session engine).IsSound)
    (idle : (start.session engine).state = .idle)
    (came : (runAll (startWithin depth) earlier).outcome start = (.ok (), world))
    (ran : (settle (call.run (startWithin depth) engine) :
      ScriptRun (Except ScriptError Unit)).outcome world = (.ok result, after)) :
    (after.session engine).state = .idle ∧ (after.session engine).outcome =
      if call.starts world engine then Session.outcomeOf (failure? result)
      else (world.session engine).outcome := by
  have reach : (startWithin depth).Reach Balances := startWithin_goes depth
  obtain ⟨size, returns⟩ := (runAll_reaches reach earlier).along came rfl
  obtain ⟨frames, state⟩ := returns engine sound.state
  have between : (world.session engine).depth = 0 := by
    unfold Session.depth
    rw [frames]
    exact sound.idle_iff.mp idle
  have agrees : (world.session engine).Agrees := by
    unfold Session.Agrees Session.isBusy
    rw [between, state, idle]
    rfl
  have balances := (Leaves.settle (call.run_reaches reach engine)).along ran rfl
  have tells := call.run_tells reach (size ▸ known) between
  refine ⟨((balances.2 engine agrees).2.trans state).trans idle, ?_⟩
  cases result with
  | ok value =>
    rw [outcome_settle_eq_ok.mp ran] at tells
    exact tells
  | error error =>
    rw [outcome_settle_eq_error.mp ran] at tells
    exact tells

/-- One engine on which nothing was called. -/
def World.uncalled : World := { engines := #[Engine.new "main" {} none] }

theorem eq_ok_of_toOption {Failure : Type} {outcome : Except Failure Result × World}
    {result : Result} (has : outcome.1.toOption = some result) :
    outcome = (.ok result, outcome.2) := by
  obtain ⟨error | value, after⟩ := outcome <;> cases has
  rfl

/-- A script that does not compile is recorded as a fault, and the script after it as none. -/
theorem host_calls_record_their_outcome_of_scripts :
    let world := ((runAll (startWithin 1) [(0, .evaluate "?")]).outcome World.uncalled).2
    let after := ((HostCall.evaluate "7").run (startWithin 1) 0).outcome world
    0 < World.uncalled.engines.size ∧ (World.uncalled.session 0).IsSound ∧
      (World.uncalled.session 0).state = .idle ∧ (world.session 0).outcome = .faulted ∧
      after.1.toOption = some () ∧ (after.2.session 0).state = .idle ∧
      (after.2.session 0).outcome = .idle := by
  intro world after
  have sound : (World.uncalled.session 0).IsSound := Session.new_isSound 256
  have came : (runAll (startWithin 1) [(0, .evaluate "?")]).outcome World.uncalled =
      (.ok (), world) :=
    eq_ok_of_toOption (by decide +kernel)
  have ends : after.1.toOption = some () := by decide +kernel
  have ran : (settle ((HostCall.evaluate "7").run (startWithin 1) 0) :
      ScriptRun (Except ScriptError Unit)).outcome world = (.ok (.ok ()), after.2) :=
    outcome_settle_eq_ok.mpr (eq_ok_of_toOption ends)
  obtain ⟨idle, recorded⟩ := host_calls_record_their_outcome 1 Nat.zero_lt_one sound rfl came ran
  rw [if_pos (by decide +kernel)] at recorded
  exact ⟨Nat.zero_lt_one, sound, rfl, by decide +kernel, ends, idle, recorded⟩

/-- A module that does not compile fails, which would be a fault, and the outcome that is recorded is
still the one of the script before. -/
theorem module_fault_is_not_recorded :
    let world := ((runAll (startWithin 1) [(0, .evaluate "7")]).outcome World.uncalled).2
    let after := (settle ((HostCall.evaluateModule "a.js" "?").run (startWithin 1) 0) :
      ScriptRun (Except ScriptError Unit)).outcome world
    (after.1.toOption.map fun result => Session.outcomeOf (failure? result)) = some .faulted ∧
      (after.2.session 0).state = .idle ∧ (after.2.session 0).outcome = .idle := by
  decide +kernel

end ScriptBridge
