/-
This file follows a world from moment to moment, through workspaces, script and host
code and what goes on inside them. Whatever happens, an engine that is disposed stays
disposed, proxies stay those of the engine that made them, and the record of an engine
has entries of its own proxies only.
-/

import ScriptBridge.Proofs.Offers
import ScriptBridge.Proofs.SessionFrames
import ScriptBridge.Proofs.WorkspaceSteps

namespace ScriptBridge

open Host Bridge Run

/-! ### What endures -/

/-- The proxy in a cell, if there is one, is the engine's own. -/
def World.IsOwn (world : World) (engine : EngineId) (cell : CellId) : Prop :=
  ∀ proxy, world.store.proxy? cell = some proxy → proxy.engine = engine

/-- The record of every engine has entries of cells that there are, and of its own proxies. -/
def World.HasOwnRecords (world : World) : Prop :=
  ∀ engine, ∀ cell ∈ (world.engine engine).cache.entries,
    cell < world.store.cells.size ∧ world.IsOwn engine cell

/-- No engine has gone, disposed ones are still disposed, a proxy in a cell that was there already
was one of the same engine before, and records are still in order. -/
structure World.Endures (before after : World) : Prop where
  engines_le : before.engines.size ≤ after.engines.size
  disposed : ∀ engine, (before.engine engine).isDisposed = true →
    (after.engine engine).isDisposed = true
  size_le : before.store.cells.size ≤ after.store.cells.size
  proxies : ∀ {cell : CellId} {now : Proxy}, cell < before.store.cells.size →
    after.store.proxy? cell = some now →
      ∃ was, before.store.proxy? cell = some was ∧ was.engine = now.engine
  own : before.HasOwnRecords → after.HasOwnRecords

namespace World.Endures

variable {world before after : World}

/-- What is the engine's own stays so. -/
theorem isOwn (endures : before.Endures after) {engine : EngineId} {cell : CellId}
    (known : cell < before.store.cells.size) (own : before.IsOwn engine cell) :
    after.IsOwn engine cell := by
  intro now found
  obtain ⟨was, former, same⟩ := endures.proxies known found
  exact same ▸ own was former

theorem of_records (engines_le : before.engines.size ≤ after.engines.size)
    (records : before.KeepsRecords after)
    (size_le : before.store.cells.size ≤ after.store.cells.size)
    (proxies : ∀ {cell : CellId} {now : Proxy}, cell < before.store.cells.size →
      after.store.proxy? cell = some now →
        ∃ was, before.store.proxy? cell = some was ∧ was.engine = now.engine) :
    before.Endures after where
  engines_le := engines_le
  disposed := records.disposed
  size_le := size_le
  proxies := proxies
  own sorted engine cell listed := by
    rcases records.entries engine cell listed with former | ⟨proxy, found, made⟩
    · obtain ⟨known, own⟩ := sorted engine cell former
      refine ⟨Nat.lt_of_lt_of_le known size_le, fun now found => ?_⟩
      obtain ⟨was, known, same⟩ := proxies known found
      exact same ▸ own was known
    · refine ⟨Store.lt_size_of_proxy? found, fun other again => ?_⟩
      rw [found] at again
      cases again
      exact made

theorem of_store (engines_le : before.engines.size ≤ after.engines.size)
    (records : before.KeepsRecords after) (store : after.store = before.store) :
    before.Endures after := by
  refine .of_records engines_le records (by rw [store]) fun inside found => ?_
  rw [store] at found
  exact ⟨_, found, rfl⟩

theorem of_same (engines : after.engines = before.engines) (store : after.store = before.store) :
    before.Endures after :=
  .of_store (Nat.le_of_eq (by rw [engines])) (.of_same engines) store

theorem of_step (step : Step before after) (modules : before.KeepsModules after)
    (records : before.KeepsRecords after) : before.Endures after := by
  refine .of_records (Nat.le_of_eq modules.size.symm) records step.size_le fun inside found => ?_
  obtain ⟨was, known, engine, -⟩ := step.proxy? inside found
  exact ⟨was, known, engine⟩

theorem modifyEngine {engine : EngineId} {change : Engine → Engine}
    (wanes : ∀ state : Engine, state.cache.Wanes (change state).cache) :
    world.Endures (world.modifyEngine engine change) :=
  .of_store (Nat.le_of_eq (World.size_modifyEngine world engine change).symm)
    (World.keepsRecords_modifyEngine (wanes _)) rfl

end World.Endures

/-- Disposal empties the record. -/
theorem wanes_emptied (state : Engine) : state.cache.Wanes state.emptied.cache :=
  ⟨fun _ => rfl, nofun⟩

theorem wanes_dispose (state : Engine) : state.cache.Wanes state.dispose.cache := by
  unfold Engine.dispose
  split
  · exact .refl _
  · exact wanes_emptied state

/-- An engine that comes with an empty record finds nothing. -/
theorem wanes_push (world : World) {state : Engine} (fresh : state.cache = {}) (other : EngineId) :
    (world.engine other).cache.Wanes
      (({ world with engines := world.engines.push state } : World).engine other).cache := by
  show (world.engine other).cache.Wanes ((world.engines.push state)[other]?.getD default).cache
  rw [Array.getElem?_push]
  split
  · next new =>
    have absent : world.engine other = default := by
      unfold World.engine
      rw [new, Array.getElem?_eq_none (Nat.le_refl _)]
      rfl
    rw [absent]
    show ProxyCache.Wanes _ state.cache
    rw [fresh]
    exact ⟨nofun, nofun⟩
  · exact .refl _

instance : RunRelation World.Endures where
  refl _ := .of_same rfl rfl
  trans first second :=
    { engines_le := Nat.le_trans first.engines_le second.engines_le
      disposed := fun engine => second.disposed engine ∘ first.disposed engine
      size_le := Nat.le_trans first.size_le second.size_le
      proxies := fun inside found => by
        obtain ⟨_, known, later⟩ :=
          second.proxies (Nat.lt_of_lt_of_le inside first.size_le) found
        obtain ⟨was, known, earlier⟩ := first.proxies inside known
        exact ⟨was, known, earlier.trans later⟩
      own := second.own ∘ first.own }
  held _ _ := .of_same rfl rfl

theorem World.Endures.of_makings {before after : World} (makings : Makings before after) :
    before.Endures after :=
  makings.related fun change records _ => .of_step (.change change) change.keeps.modules records

instance : ChangeRelation World.Endures where
  change change records _ _ := .of_step (.change change) change.keeps.modules records

instance : ModuleRelation World.Endures where
  step step modules records _ _ := .of_step step modules records
  connect := World.Connects.related fun step modules records _ => .of_step step modules records
  disconnect :=
    World.Disconnects.related fun step modules records _ => .of_step step modules records
  convey _ _ makings _ _ := .of_makings makings
  dispose _ _ := .modifyEngine wanes_dispose
  modules _ _ _ := .modifyEngine fun _ => .refl _

instance : WorkspaceRelation World.Endures where
  around engines store _ := .of_same engines store
  create world engine _ fresh := by
    refine .of_store ?_ (.of_cache (wanes_push world fresh)) rfl
    exact Nat.le_trans (Nat.le_succ _) (Nat.le_of_eq (Array.size_push _).symm)
  close _ _ := .modifyEngine fun state => wanes_emptied state
  govern _ _ _ := .modifyEngine fun _ => .refl _
  tell _ _ _ := .of_same rfl rfl

/-! ### Moments -/

/-- What may happen in a world: a step of a workspace; an operation or an expression of script; host
code; a value that crosses between the two or to another engine; and what goes on around these, so
that every moment inside them is one of the world, too. -/
inductive World.Happens (calls : Calls) : World → World → Prop
  | step (world : World) (step : Workspace.Step) :
      Happens calls world (Workspace.runStep calls step world).2
  | operation (world : World) (engine : EngineId) (operation : Operation) :
      Happens calls world ((operation.run calls engine).outcome world).2
  | script (world : World) (context : Script.Context) (code : Script.Code) :
      Happens calls world ((code.run calls context).outcome world).2
  | host (world : World) (setting : Setting) (arguments : List Value) (code : Host.Code) :
      Happens calls world ((runCode calls setting arguments code).outcome world).2
  | toHost (world : World) (engine : EngineId) (value : Script.Value) (target : TypeRef) :
      Happens calls world ((toHost engine value target).outcome world).2
  | toScript (world : World) (engine : EngineId) (value : Value) (declared : TypeRef) :
      Happens calls world ((toScript calls engine value declared).outcome world).2
  | adopt (world : World) (engine : EngineId) (value : Script.Value) :
      Happens calls world ((adopt engine value).outcome world).2
  | settle (world : World) (engine : EngineId) (owed : Bool) :
      Happens calls world ((settleEngine engine owed).outcome world).2
  | dispose (world : World) (engine : EngineId) :
      Happens calls world (world.modifyEngine engine Engine.dispose)
  | held (world : World) (held : List CellId) : Happens calls world { world with held }
  | locals (world : World) (locals : List (Named Script.Value)) :
      Happens calls world { world with locals }
  | create (world : World) (contents : Cell) : Happens calls world (world.create contents).1
  | session (world : World) (engine : EngineId) (session : Session) :
      Happens calls world (world.withSession engine session)
  | modules (world : World) (engine : EngineId) (change : ModuleCache → ModuleCache) :
      Happens calls world
        (world.modifyEngine engine fun state => { state with modules := change state.modules })

/-- One moment of a run is later than another. -/
abbrev World.Later (calls : Calls) : World → World → Prop :=
  Relation.ReflTransGen (World.Happens calls)

/-- What takes in what script and the surroundings do, with the private proxies, new cells and
sessions that come besides, takes in whatever happens. -/
theorem World.Happens.related {depth : Nat} {relation : World → World → Prop}
    [ModuleRelation relation] [WorkspaceRelation relation]
    (makings : ∀ {before after}, Makings before after → relation before after)
    (creates : ∀ world contents, relation world (World.create world contents).1)
    (settles : ∀ world engine session, relation world (World.withSession world engine session))
    {before after : World} (happens : World.Happens (Script.startWithin depth) before after) :
    relation before after := by
  have reach : (Script.startWithin depth).Reach relation := Script.startWithin_goes depth
  cases happens with
  | step step =>
    exact Workspace.runStep_leaves reach (ModuleRequest.answer_reaches reach) step
      (fun _ _ => TakesIn.of_makings makings) before
  | operation engine operation => exact operation.run_reaches reach engine before
  | script context code => exact Script.Code.run_reaches reach context code before
  | host setting arguments code => exact Host.runCode_reaches reach setting arguments code before
  | toHost engine value target =>
    exact (toHost_leaves engine value target : Leaves relation _) before
  | toScript engine value declared => exact toScript_reaches reach engine value declared before
  | adopt engine value => exact (adopt_leaves engine value : Leaves relation _) before
  | settle engine owed => exact (settleEngine_leaves engine owed : Leaves relation _) before
  | dispose engine => exact StepRelation.dispose before engine
  | held held => exact RunRelation.held before held
  | locals locals => exact WorkspaceRelation.around rfl rfl rfl
  | create contents => exact creates before contents
  | session engine session => exact settles before engine session
  | modules engine change => exact ModuleRelation.modules before engine change

theorem World.Happens.endures {depth : Nat} {before after : World}
    (happens : World.Happens (Script.startWithin depth) before after) : before.Endures after := by
  refine happens.related World.Endures.of_makings (fun world contents => ?_) fun _ _ _ =>
    .modifyEngine fun _ => .refl _
  refine .of_records (Nat.le_refl _) (.of_same rfl) ?_ fun inside found => ⟨_, ?_, rfl⟩
  · rw [show (world.create contents).1.store = (world.store.create contents).1 from rfl,
      Store.size_create]
    exact Nat.le_succ _
  · rw [Store.proxy?_eq_some] at found ⊢
    exact (Store.get?_create_of_lt inside).symm.trans found

theorem World.Later.endures {depth : Nat} {before after : World}
    (later : World.Later (Script.startWithin depth) before after) : before.Endures after := by
  induction later with
  | refl => exact RunRelation.refl before
  | tail _ last inductionHypothesis => exact RunRelation.trans inductionHypothesis last.endures

end ScriptBridge
