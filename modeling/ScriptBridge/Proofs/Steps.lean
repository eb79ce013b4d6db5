/-
This file follows running code one step at a time. A step makes a change, gives an
engine another policy, asks a dynamic capability, looks at a proxy or uses a
member. Only a capability that the proxy does not pass by is asked. A look notes
what the proxy offers at that moment; a use is of a member that was looked up last,
and is permitted by what was seen then. Whatever code runs, the world it leaves is
reached from the one it started in by such steps, and runs made of others reach
what these reach one after the other. A frame goes on from its body, and gives back
the session that it was entered in unless its body gets out of depth.
-/

import ScriptBridge.Binding.Dynamic
import ScriptBridge.Binding.Target
import ScriptBridge.Proofs.Changes

namespace ScriptBridge

open Host Binding

/-! ### Uses -/

/-- The label under which a body is logged. -/
def Host.Body.label? : Body → Option String
  | .code label _ => label
  | _ => none

namespace Binding

/-- Is the action one that the implementation of a member offers? -/
def Action.isOf : Action → Implementation → Prop
  | .read body, .accessor (some get) _ => body = get
  | .write body, .accessor _ (some set) => body = set
  | .call body, .invoke invoked => body = invoked
  | .attach, .event => True
  | .readField place, .structField field | .writeField place, .structField field => place = field
  | .intrinsic number, .intrinsic known => number = known
  | _, _ => False

/-- Does the action write? -/
def Action.isWrite : Action → Bool
  | .write _ | .writeField _ => true
  | _ => false

/-- The label under which the body of an action is logged. -/
def Action.label? : Action → Option String
  | .read body | .write body | .call body => body.label?
  | _ => none

/-- The label under which the body of a use is logged. -/
def MemberEvent.label? : MemberEvent → Option String
  | .used use => use.action.label?
  | _ => none

/-- The use is of a member that the scene offers, that script sees, and may write if it is
written. -/
structure MemberUse.IsPermitted (use : MemberUse) : Prop where
  offered : use.slot ∈ use.scene.slots ∨ use.slot ∈ use.scene.constructors
  visible : use.scene.sight.access use.slot ≠ .hidden
  writable : use.action.isWrite = true → use.scene.sight.access use.slot = .full
  own : use.action.isOf use.slot.implementation.implementation

/-- The scene is what its proxy offers to its engine's script in the world. -/
def Scene.IsCurrent (scene : Scene) (world : World) : Prop :=
  ∃ target, world.targetOf scene.proxy = .ok target ∧
    scene = sceneIn world scene.engine scene.proxy (subjectIn world.store target)

end Binding

/-! ### Steps -/

/-- A step of running code. A use comes right after a look, and with what it does: the body it
runs is logged if it has a label, the field it writes is replaced, the handler it attaches is added;
what else it does takes further steps. -/
inductive Step : World → World → Prop
  | change {before after : World} (change : Change before after) : Step before after
  | govern (world : World) {engine : EngineId} (known : engine < world.engines.size)
      (policy : Policy) :
      Step world { world.modifyEngine engine (fun state => { state with policy }) with
        history := .governed engine policy :: world.history }
  | look (world : World) {scene : Scene} (current : scene.IsCurrent world) :
      Step world { world with history := .looked scene :: world.history }
  | offer (world : World) {offer : Offer}
      (current : dynamicIn? world.store offer.proxy (.object offer.object) = some offer.object) :
      Step world { world with history := .offered offer :: world.history }
  | use (world : World) {use : MemberUse}
      (looked : world.history.head? = some (.looked use.scene)) (permitted : use.IsPermitted)
      (silent : use.action.label? = none) :
      Step world { world with history := .used use :: world.history }
  | call (world : World) {use : MemberUse} {label : String} (arguments : List Shown)
      (assigned : Option Shown) (looked : world.history.head? = some (.looked use.scene))
      (permitted : use.IsPermitted) (labelled : use.action.label? = some label) :
      Step world { world with
        history := .used use :: world.history
        log := world.log.push (.call label arguments assigned) }
  | overwrite (world : World) {use : MemberUse} {place : Nat} (value : Value) {type : TypeKey}
      {fields : List Value} (looked : world.history.head? = some (.looked use.scene))
      (permitted : use.IsPermitted) (writes : use.action = .writeField place)
      (boxed : (world.store.proxy use.scene.proxy).target = .boxed (.struct type fields)) :
      Step world { world with
        history := .used use :: world.history
        store := world.store.put use.scene.proxy (.proxy
          { world.store.proxy use.scene.proxy with
            target := .boxed (.struct type (fields.set place value)) }) }
  | attach (world : World) {use : MemberUse} {cell : CellId} {object : HostObject}
      (handler : CellId) (looked : world.history.head? = some (.looked use.scene))
      (permitted : use.IsPermitted) (attaches : use.action = .attach)
      (self : use.scene.subject.self = .object cell)
      (found : world.store.object? cell = some object) :
      Step world { world with
        history := .used use :: world.history
        store := world.store.put cell
          (.object (object.attach use.slot.implementation.name handler)) }
  | modules (world : World) (engine : EngineId) (change : Engine → Engine)
      (policy : ∀ state, (change state).policy = state.policy) :
      Step world (world.modifyEngine engine change)

/-- Steps one after another. -/
abbrev Reaches : World → World → Prop := Relation.ReflTransGen Step

/-! ### Ties that are made and undone -/

/-- A handler is added to an event as it may be, and then the connection is made that can take it
back. Changes go before and come between. -/
inductive World.Connects : World → World → Prop
  | connect {world start between : World} {use : MemberUse} {cell handler : CellId}
      {object : HostObject} (type : TypeKey) (earlier : Changes world start)
      (looked : start.history.head? = some (.looked use.scene)) (permitted : use.IsPermitted)
      (attaches : use.action = .attach) (self : use.scene.subject.self = .object cell)
      (found : start.store.object? cell = some object)
      (later : Changes { start with
        history := .used use :: start.history
        store := start.store.put cell
          (.object (object.attach use.slot.implementation.name handler)) } between) :
      Connects world (between.create (.connection
        { type, source := .object cell, handler, event := use.slot.implementation.name,
          connected := true })).1

/-- The store with a connection marked as undone. -/
def Store.undo (store : Store) (cell : CellId) (bond : Connection) : Store :=
  store.put cell (.connection { bond with connected := false })

/-- A connection is undone, and its handler is taken from its source if that is still there. -/
inductive World.Disconnects (cell : CellId) (bond : Connection) : World → World → Prop
  | detach {world : World} {source : CellId} {object : HostObject}
      (found : world.store.get? cell = some (.connection bond)) (connected : bond.connected = true)
      (self : bond.source = .object source)
      (living : (world.store.undo cell bond).object? source = some object) :
      Disconnects cell bond world { world with
        store := (world.store.undo cell bond).put source
          (.object (object.detach bond.event bond.handler)) }
  | gone {world : World} (found : world.store.get? cell = some (.connection bond))
      (connected : bond.connected = true)
      (gone : ∀ source, bond.source = .object source →
        (world.store.undo cell bond).object? source = none) :
      Disconnects cell bond world { world with store := world.store.undo cell bond }

section

variable {relation : World → World → Prop} [ChangeRelation relation]
variable (step : ∀ {before after}, Step before after → before.KeepsModules after →
  before.KeepsRecords after → before.KeepsPlain after → relation before after)

include step

/-- Connecting is made of steps. -/
theorem World.Connects.related {before after : World} (connects : before.Connects after) :
    relation before after := by
  cases connects with
  | @connect start between _ _ handler _ _ earlier looked permitted attaches self found later =>
    refine RunRelation.trans earlier.related
      (RunRelation.trans ?_ (RunRelation.trans later.related ?_))
    · exact step (.attach start handler looked permitted attaches self found) (.of_same rfl)
        (.of_same rfl) (.of_put rfl rfl rfl)
    · exact step (.change (.create between fun _ => rfl)) (.of_same rfl) (.of_same rfl)
        (.create between rfl)

/-- Disconnecting is made of steps. -/
theorem World.Disconnects.related {cell : CellId} {bond : Connection} {before after : World}
    (disconnects : World.Disconnects cell bond before after) : relation before after := by
  have undone : relation before { before with store := before.store.undo cell bond } :=
    step (.change (.put before ⟨nofun, fun _ => List.nil_sublist _⟩)) (.of_same rfl)
      (.of_same rfl) (.of_put rfl rfl rfl)
  cases disconnects with
  | @detach _ object _ _ _ living =>
    refine RunRelation.trans undone ?_
    exact step (.change (.put _ (.object living (object.handlersOf_detach_sublist _ _))))
      (.of_same rfl) (.of_same rfl) (.of_put rfl rfl rfl)
  | gone => exact undone

end

/-! ### Relations that take in steps -/

/-- A relation that takes in every step that keeps the modules and the records of engines and the
ties and is plain, connecting and disconnecting, the making of proxies from one that is not plain,
and disposal. -/
class StepRelation (relation : World → World → Prop) : Prop extends ChangeRelation relation where
  step : ∀ {before after}, Step before after → before.KeepsModules after →
    before.KeepsRecords after → before.KeepsTies after → before.KeepsPlain after →
      relation before after
  connect : ∀ {before after : World}, before.Connects after → relation before after
  disconnect : ∀ {cell bond} {before after : World}, World.Disconnects cell bond before after →
    relation before after
  convey : ∀ {before after : World} {source : CellId} {former : Proxy},
    before.store.proxy? source = some former → former.isPlain = false → Makings before after →
      before.ConfinesTo former.Conveys after →
      (former.target.isApt = true → before.KeepsTargets after) → relation before after
  dispose : ∀ world engine, relation world (world.modifyEngine engine Engine.dispose)

theorem policy_dispose (engine : Engine) : engine.dispose.policy = engine.policy := by
  unfold Engine.dispose
  split
  · rfl
  · rfl

instance : RunRelation Reaches where
  refl _ := .refl
  trans := .trans
  held world held := .single (.change (.held world held))

instance : ChangeRelation Reaches where
  change change _ _ _ := .single (.change change)

instance : StepRelation Reaches where
  step step _ _ _ _ := .single step
  connect := World.Connects.related fun step _ _ _ => .single step
  disconnect := World.Disconnects.related fun step _ _ _ => .single step
  convey _ _ makings _ _ := makings.related fun change _ _ => .single (.change change)
  dispose world engine := .single (.modules world engine _ policy_dispose)

/-- A relation that takes in every change of the modules of an engine besides. -/
class ModuleRelation (relation : World → World → Prop) : Prop extends StepRelation relation where
  modules : ∀ world engine (change : ModuleCache → ModuleCache), relation world
    (world.modifyEngine engine fun state => { state with modules := change state.modules })

instance : ModuleRelation Reaches where
  modules world engine _ := .single (.modules world engine _ fun _ => rfl)

/-! ### Conducts that take in frames -/

/-- A conduct that goes on from the body of a frame to the frame: a frame whose body gets out of
depth is not left. -/
class FrameConduct (conduct : Conduct) : Prop extends ChangeConduct conduct where
  stuck : ∀ {world after : World} {engine kind entered},
    (world.session engine).enter kind = .ok entered →
      conduct (world.withSession engine entered) true after → conduct world true after
  left : ∀ {world after : World} {engine kind entered} failure,
    (world.session engine).enter kind = .ok entered →
      conduct (world.withSession engine entered) false after →
        conduct world false (after.withSession engine ((after.session engine).leave failure).1)

/-- For what takes in every change, entering and leaving a frame are changes. -/
instance {relation : World → World → Prop} [ChangeRelation relation] : FrameConduct relation where
  stuck {world _ engine _ entered} _ related :=
    RunRelation.trans (world.withSession_changes engine entered).related related
  left {world after engine _ entered} _ _ related :=
    RunRelation.trans (world.withSession_changes engine entered).related
      (RunRelation.trans related (after.withSession_changes engine _).related)

/-! ### Calls that are given back -/

/-- Every session has its frames and its state back, unless the run got out of depth. -/
def Balances : Conduct := fun before short after => short = false →
  after.engines.size = before.engines.size ∧
    ∀ engine, (before.session engine).Returns (after.session engine)

theorem World.KeepsCalls.balances {before after : World} {short : Bool}
    (keeps : before.KeepsCalls after) : Balances before short after :=
  fun _ => ⟨keeps.size, fun engine _ => ⟨keeps.frames engine, keeps.state engine⟩⟩

instance : FrameConduct Balances where
  refl world _ _ := ⟨rfl, fun _ => .refl _⟩
  trans first second long :=
    ⟨(second long).1.trans (first rfl).1, fun engine =>
      ((first rfl).2 engine).trans ((second long).2 engine)⟩
  held _ balances := balances
  changes _ calls := calls.balances
  stuck _ _ := nofun
  left {world after engine _ entered} failure enters inside _ := by
    obtain ⟨size, returns⟩ := inside rfl
    rw [World.size_withSession] at size
    rcases Nat.lt_or_ge engine world.engines.size with known | missing
    · refine ⟨(after.size_withSession engine _).trans size, fun other => ?_⟩
      have back := returns other
      by_cases here : engine = other
      · subst here
        rw [World.session_withSession_self known] at back
        rw [World.session_withSession_self (size ▸ known)]
        exact back.leave enters failure
      · rwa [World.session_withSession_of_ne here] at back ⊢
    · rw [World.withSession, World.modifyEngine_of_size_le missing] at returns
      rw [World.withSession, World.modifyEngine_of_size_le (size ▸ missing)]
      exact ⟨size, returns⟩

/-! ### Conducts that take in steps -/

/-- Steps that keep the modules and the records of engines and the ties and are plain. -/
abbrev PlainSteps : World → World → Prop :=
  Relation.ReflTransGen fun before after =>
    Step before after ∧ before.KeepsModules after ∧ before.KeepsRecords after ∧
      before.KeepsTies after ∧ before.KeepsPlain after

theorem PlainSteps.related {relation : World → World → Prop} [StepRelation relation]
    {before after : World} (steps : PlainSteps before after) : relation before after := by
  induction steps with
  | refl => exact RunRelation.refl _
  | tail _ last inductionHypothesis =>
    obtain ⟨step, modules, records, ties, plain⟩ := last
    exact RunRelation.trans inductionHypothesis
      (StepRelation.step step modules records ties plain)

theorem Changes.plainSteps {before after : World} (changes : Changes before after) :
    PlainSteps before after :=
  Relation.ReflTransGen.mono (fun _ _ ⟨change, records, ties, plain⟩ =>
    ⟨.change change, change.keeps.modules, records, ties, plain⟩) before after changes

/-- A conduct that takes in steps that give back the calls, connecting and disconnecting, the making
of proxies from one that is not plain, and disposal. -/
class StepConduct (conduct : Conduct) : Prop extends FrameConduct conduct where
  steps : ∀ {before after short}, PlainSteps before after → Balances before short after →
    conduct before short after
  connect : ∀ {before after : World} {short}, before.Connects after →
    Balances before short after → conduct before short after
  disconnect : ∀ {cell bond} {before after : World} {short},
    World.Disconnects cell bond before after → conduct before short after
  convey : ∀ {before after : World} {short} {source : CellId} {former : Proxy},
    before.store.proxy? source = some former → former.isPlain = false → Makings before after →
      before.ConfinesTo former.Conveys after →
      (former.target.isApt = true → before.KeepsTargets after) → before.KeepsCalls after →
        conduct before short after
  dispose : ∀ world short engine, conduct world short (world.modifyEngine engine Engine.dispose)

/-- A conduct that takes in every change of the modules of an engine besides. -/
class ModuleConduct (conduct : Conduct) : Prop extends StepConduct conduct where
  modules : ∀ world short engine (change : ModuleCache → ModuleCache), conduct world short
    (world.modifyEngine engine fun state => { state with modules := change state.modules })

instance {relation : World → World → Prop} [StepRelation relation] : StepConduct relation where
  steps steps _ := steps.related
  connect connects _ := StepRelation.connect connects
  disconnect := StepRelation.disconnect
  convey known plain makings confines targets _ :=
    StepRelation.convey known plain makings confines targets
  dispose world _ engine := StepRelation.dispose world engine

instance {relation : World → World → Prop} [ModuleRelation relation] : ModuleConduct relation where
  modules world _ engine change := ModuleRelation.modules world engine change

theorem session_dispose (engine : Engine) : engine.dispose.session = engine.session := by
  unfold Engine.dispose
  split <;> rfl

instance : ModuleConduct Balances where
  steps _ balances := balances
  connect _ balances := balances
  disconnect disconnects := by
    cases disconnects <;> exact (World.KeepsCalls.of_same rfl).balances
  convey _ _ _ _ _ calls := calls.balances
  dispose world _ engine :=
    (world.keepsSessions_modifyEngine engine session_dispose).keepsCalls.balances
  modules world _ engine _ :=
    World.KeepsCalls.balances (world.keepsCalls_modifyEngine engine (fun _ => rfl) fun _ => rfl)

section

variable {conduct : Conduct} [StepConduct conduct] {before after : World} {short : Bool}

/-- A step that leaves the engines alone is taken in. -/
theorem Step.conducted (step : Step before after) (engines : after.engines = before.engines)
    (ties : before.KeepsTies after) (plain : before.KeepsPlain after) :
    conduct before short after :=
  StepConduct.steps (.single ⟨step, .of_same engines, .of_same engines, ties, plain⟩)
    (World.KeepsCalls.of_same engines).balances

/-- A step that leaves the engines and the cells alone is taken in. -/
theorem Step.conducted_of_same (step : Step before after) (engines : after.engines = before.engines)
    (store : after.store = before.store) : conduct before short after :=
  step.conducted engines (.of_same engines store) (.of_same engines store)

end

namespace Run

variable {Failure Other Result Next : Type}

/-! ### Runs that need a history -/

/-- Where the history is as asked for, the run leaves a world that is related to its start. -/
def ReachesFrom (run : Run Failure Result) (conduct : Conduct)
    (past : List MemberEvent → Prop) : Prop :=
  ∀ world, past world.history → conduct world (isShort (run.outcome world).1) (run.outcome world).2

/-- The last that happened is that a proxy was looked at. -/
abbrev justLooked (scene : Scene) (history : List MemberEvent) : Prop :=
  history.head? = some (.looked scene)

variable {steps : Conduct}

theorem Leaves.reachesFrom {past : List MemberEvent → Prop} {run : Run Failure Result}
    (leaves : Leaves steps run) : run.ReachesFrom steps past :=
  fun world _ => leaves world

/-- What a settled run yields as a result is what the run yields. -/
theorem Yields.of_settle {run : Run Failure Result} {result : Result}
    (yields : (run.settle : Run Other (Except Failure Result)).Yields (.ok result)) :
    run.Yields result := by
  obtain ⟨world, after, settled⟩ := yields
  refine ⟨world, after, ?_⟩
  rw [outcome_settle] at settled
  rcases ran : run.outcome world with ⟨(error | _) | value, later⟩
  · rw [ran] at settled
    cases settled
  · rw [ran] at settled
    cases settled
  · rw [ran] at settled
    cases settled
    rfl

namespace ReachesFrom

variable [ChangeConduct steps] {past : List MemberEvent → Prop}

theorem raise (error : Failure) : (Run.raise error : Run Failure Result).ReachesFrom steps past :=
  Leaves.reachesFrom (.raise error)

omit [ChangeConduct steps] in
theorem leaves {run : Run Failure Result} (reaches : run.ReachesFrom steps fun _ => True) :
    Leaves steps run :=
  fun world => reaches world trivial

/-- What follows a run that only changes the world finds the history as it was. -/
theorem changes_bind_of_yields {run : Run Failure Result} {next : Result → Run Failure Next}
    (first : Leaves LevelChanges run) (second : ∀ result, run.Yields result →
      (next result).ReachesFrom steps past) : (run >>= next).ReachesFrom steps past := by
  intro world holds
  have level := first world
  rw [outcome_bind]
  rcases ran : run.outcome world with ⟨halt | result, after⟩
  · rw [ran] at level
    exact level.conducted
  · rw [ran] at level
    refine RunConduct.trans level.conducted (second result ⟨world, after, ran⟩ after ?_)
    rw [level.changes.history]
    exact holds

theorem changes_bind {run : Run Failure Result} {next : Result → Run Failure Next}
    (first : Leaves LevelChanges run) (second : ∀ result, (next result).ReachesFrom steps past) :
    (run >>= next).ReachesFrom steps past :=
  changes_bind_of_yields first fun result _ => second result

theorem bind {run : Run Failure Result} {next : Result → Run Failure Next}
    (first : run.ReachesFrom steps past) (second : ∀ result, Leaves steps (next result)) :
    (run >>= next).ReachesFrom steps past := by
  intro world holds
  have before := first world holds
  rw [outcome_bind]
  rcases ran : run.outcome world with ⟨halt | result, after⟩
  · rw [ran] at before
    exact before
  · rw [ran] at before
    exact RunConduct.trans before (second result after)

omit [ChangeConduct steps] in
theorem settle {run : Run Failure Result} (reaches : run.ReachesFrom steps past) :
    (run.settle : Run Other (Except Failure Result)).ReachesFrom steps past := by
  intro world holds
  have before := reaches world holds
  rw [outcome_settle]
  rcases ran : run.outcome world with ⟨(error | _) | result, after⟩ <;>
    · rw [ran] at before
      exact before

omit [ChangeConduct steps] in
theorem mapFailure {change : World → Failure → Other} {run : Run Failure Result}
    (reaches : run.ReachesFrom steps past) : (run.mapFailure change).ReachesFrom steps past := by
  intro world holds
  have before := reaches world holds
  rw [outcome_mapFailure]
  rcases ran : run.outcome world with ⟨(error | _) | result, after⟩ <;>
    · rw [ran] at before
      exact before

theorem scope {run : Run Failure Result} (reaches : run.ReachesFrom steps past) :
    (Run.scope run).ReachesFrom steps past :=
  fun world holds => RunConduct.held _ (reaches world holds)

theorem held [HoldsCells Result] {run : Run Failure Result} (reaches : run.ReachesFrom steps past) :
    (Run.held run).ReachesFrom steps past :=
  bind reaches .hold

omit [ChangeConduct steps] in
/-- A use that is permitted by what was looked at last, and what follows it. -/
theorem use [StepConduct steps] {use : MemberUse} (permitted : use.IsPermitted) (silent : use.action.label? = none)
    {run : Run Failure Result} (reaches : Leaves steps run) :
    ((do Run.note (.used use); run) : Run Failure Result).ReachesFrom steps
      (justLooked use.scene) := by
  intro world looked
  exact RunConduct.trans ((Step.use world looked permitted silent).conducted_of_same rfl rfl)
    (reaches _)

end ReachesFrom

end Run

/-! ### Calls -/

/-- Whatever the calls start leaves a world that is related to its start. -/
structure Calls.Reach (calls : Calls) (steps : Conduct) : Prop where
  callFunction : ∀ engine cell arguments,
    Run.Leaves steps (calls.callFunction engine cell arguments)
  callValue : ∀ engine callee arguments,
    Run.Leaves steps (calls.callValue engine callee arguments)
  assignThrough : ∀ engine callee keys value,
    Run.Leaves steps (calls.assignThrough engine callee keys value)
  toScript : ∀ engine value declared, Run.Leaves steps (calls.toScript engine value declared)
  toText : ∀ engine value, Run.Leaves steps (calls.toText engine value)
  invokeDelegate : ∀ cell arguments, Run.Leaves steps (calls.invokeDelegate cell arguments)
  evaluate : ∀ engine source, Run.Leaves steps (calls.evaluate engine source)
  importModule : ∀ engine specifier referrer,
    Run.Leaves steps (calls.importModule engine specifier referrer)

theorem Calls.exhausted_reach {steps : Conduct} [RunConduct steps] :
    Calls.exhausted.Reach steps where
  callFunction _ _ _ := .exhausted
  callValue _ _ _ := .exhausted
  assignThrough _ _ _ _ := .exhausted
  toScript _ _ _ := .exhausted
  toText _ _ := .exhausted
  invokeDelegate _ _ := .exhausted
  evaluate _ _ := .exhausted
  importModule _ _ _ := .exhausted

end ScriptBridge
