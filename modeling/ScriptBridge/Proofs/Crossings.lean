/-
This file follows values into the engine that receives them: into its globals, into its
functions and out of those of others, and out of what host state keeps for it. A proxy
is received as one of the engine's own, made for it if need be. Whatever is no proxy is
received as it is, with all that is in it.
-/

import ScriptBridge.Proofs.Answers
import ScriptBridge.Proofs.Moments

namespace ScriptBridge

open Host Bridge Run

/-! ### What is received -/

namespace World

/-- A proxy is received as one of the engine's own, which is the one given or one that there is, and
every other value as it is. -/
def Receives (world : World) (engine : EngineId) (value own : Script.Value) : Prop :=
  match value with
  | .proxy given =>
    ∃ cell, own = .proxy cell ∧ world.IsOwn engine cell ∧
      (cell = given ∨ cell < world.store.cells.size)
  | _ => own = value

/-- The value is no proxy of another engine. -/
def OwnsOutermost (world : World) (engine : EngineId) (value : Script.Value) : Prop :=
  ∀ cell, value = .proxy cell → world.IsOwn engine cell

/-- The cells that the value names are there. -/
def Knows (world : World) (value : Script.Value) : Prop :=
  ∀ cell ∈ value.cells, cell < world.store.cells.size

variable {world before after : World} {engine : EngineId} {value own : Script.Value}

theorem Receives.ownsOutermost (receives : world.Receives engine value own) :
    world.OwnsOutermost engine own := by
  rintro cell rfl
  unfold Receives at receives
  cases value with
  | proxy given =>
    obtain ⟨_, ⟨⟩, isOwn, -⟩ := receives
    exact isOwn
  | _ => cases receives

/-- What else changes does not matter. -/
theorem Receives.of_store (receives : before.Receives engine value own)
    (store : after.store = before.store) : after.Receives engine value own := by
  unfold Receives IsOwn at *
  rwa [store]

/-- What was received stays so. -/
theorem Receives.endures (receives : before.Receives engine value own) (knows : before.Knows value)
    (endures : before.Endures after) : after.Receives engine value own := by
  unfold Receives at *
  cases value with
  | proxy given =>
    obtain ⟨cell, is, isOwn, known⟩ := receives
    have inside : cell < before.store.cells.size := by
      rcases known with rfl | known
      · exact knows cell List.mem_cons_self
      · exact known
    exact ⟨cell, is, endures.isOwn inside isOwn, .inr (Nat.lt_of_lt_of_le inside endures.size_le)⟩
  | _ => exact receives

theorem Knows.endures (knows : before.Knows value) (endures : before.Endures after) :
    after.Knows value :=
  fun cell named => Nat.lt_of_lt_of_le (knows cell named) endures.size_le

end World

instance : Preserves World.Endures World.HasOwnRecords where
  preserves endures := endures.own

namespace Bridge

/-! ### Proxies -/

/-- The cell is one that there is, and what proxy is in it is the engine's own. -/
def IsMade (engine : EngineId) (world : World) (cell : CellId) : Prop :=
  cell < world.store.cells.size ∧ world.IsOwn engine cell

/-- Engines find and make their own proxies. -/
theorem supplies_isMade (engine : EngineId) (flags : ItemFlags) :
    Supplies World.Endures World.HasOwnRecords engine flags (IsMade engine) where
  found sorted mark listed _ := sorted _ _ (ProxyCache.mem_entries.mpr ⟨mark.1, listed⟩)
  made {world after proxy} owned _ store := by
    have found : after.store.proxy? world.store.cells.size = some proxy := by
      rw [store]
      exact Store.proxy?_eq_some.mpr (Store.get?_create_size _ _)
    refine ⟨Store.lt_size_of_proxy? found, fun other again => ?_⟩
    cases found.symm.trans again
    exact owned
  stays endures made :=
    ⟨Nat.lt_of_lt_of_le made.1 endures.size_le, endures.isOwn made.1 made.2⟩

/-! ### Adoption -/

/-- A proxy of the engine is its own already. -/
theorem isOwn_of_engine {world : World} {engine : EngineId} {cell : CellId}
    (same : (world.store.proxy cell).engine = engine) : world.IsOwn engine cell := by
  intro proxy found
  rw [Store.proxy?_eq_some] at found
  unfold Store.proxy at same
  rw [found] at same
  exact same

/-- A run that makes a proxy of what was given. -/
theorem receives_made {run : ScriptRun CellId} {engine : EngineId}
    (ends : run.Ends World.HasOwnRecords (IsMade engine)) (given : CellId) :
    (do return .proxy (← run) : ScriptRun Script.Value).Ends World.HasOwnRecords fun world own =>
      world.Receives engine (.proxy given) own :=
  ends.map fun _ cell made => ⟨cell, rfl, made.2, .inr made.1⟩

/-- What an engine adopts it has received. -/
theorem adopt_receives (engine : EngineId) (value : Script.Value) :
    (adopt engine value).Ends World.HasOwnRecords fun world own =>
      world.Receives engine value own := by
  refine .bind (.holdCells _) fun _ => ?_
  cases value with
  | proxy given =>
    intro world sorted own after ran
    dsimp only at ran
    rw [outcome_bind_of_ok (outcome_readStore _ _)] at ran
    split at ran
    · next same =>
      cases ran
      exact ⟨given, rfl, isOwn_of_engine (beq_iff_eq.mp same), .inl rfl⟩
    · split at ran
      · exact receives_made (findHandle_ends (supplies_isMade _ _) _) given world sorted own after ran
      · exact receives_made (boxValue_ends (supplies_isMade _ _) _) given world sorted own after ran
      · refine (?_ : Ends _ _ fun world own => world.Receives engine (.proxy given) own)
          world sorted own after ran
        refine .bind (.observe _) fun reached => .bind (.ofExcept _) fun target => ?_
        refine .bind (.holdCells _) fun _ => .bind (reserve_leaves engine) fun _ => ?_
        exact receives_made (findReference_ends (supplies_isMade _ _) _ _) given
  | _ => exact .pure fun _ => rfl

/-! ### Marshaling -/

/-- Whatever the host gives an engine, it is no proxy of another. -/
theorem toScript_ownsOutermost {calls : Calls} (reach : calls.Reach World.Endures)
    (engine : EngineId) (value : Host.Value) (declared : TypeRef) :
    (toScript calls engine value declared).Ends World.HasOwnRecords (·.OwnsOutermost engine) := by
  refine toScript_ends (supplies_isMade engine .none) (fun made => made.2) (fun _ _ _ => id) reach
    ?_ value declared
  intro world handle inner sorted _ own after ran
  exact (adopt_receives engine inner world sorted own after ran).ownsOutermost

/-- A script value that the host kept is received. -/
theorem toScript_receives {world after : World} {engine : EngineId} {handle : CellId}
    {kept own : Script.Value} {calls : Calls} {declared : TypeRef} (sorted : world.HasOwnRecords)
    (handed : world.store.handle? handle = some kept)
    (ran : (toScript calls engine (.script handle) declared).outcome world = (.ok own, after)) :
    after.Receives engine kept own := by
  have opened : (toScript calls engine (.script handle) declared).outcome world =
      (scope (do holdCells [handle]; adopt engine kept) :
        ScriptRun Script.Value).outcome world := by
    unfold toScript
    refine outcome_scope_congr ?_
    rw [outcome_bind_of_ok (outcome_holdCells _ _), outcome_bind_of_ok (outcome_holdCells _ _)]
    refine (outcome_bind_of_ok (outcome_engine engine _)).trans ?_
    refine (outcome_bind_of_ok (outcome_readStore _ _)).trans ?_
    rw [show (world.holding (Host.Value.script handle).cells).store.handle? handle = _ from handed]
    rfl
  rw [opened] at ran
  refine (?_ : Ends _ _ fun world own => world.Receives engine kept own) world sorted own after ran
  exact .scope (fun _ _ _ receives => receives.of_store rfl)
    (.bind (.holdCells _) fun _ => adopt_receives engine kept)

end Bridge

namespace Script

/-! ### Globals -/

theorem writeGlobal_receives {world after : World} {engine : EngineId} {name : String}
    {value : Script.Value} (sorted : world.HasOwnRecords) (known : engine < world.engines.size)
    (ran : (writeGlobal engine name value).outcome world = (.ok (), after)) :
    ∃ own, (after.engine engine).globals.get? name = some own ∧
      after.Receives engine value own := by
  unfold writeGlobal at ran
  rw [outcome_scope] at ran
  rcases inner : (do
      let own ← adopt engine value
      modifyEngine engine fun engine => { engine with globals := engine.globals.put name own } :
      ScriptRun Unit).outcome world with ⟨halt | given, between⟩
  · rw [inner] at ran
    cases ran
  · rw [inner] at ran
    cases ran
    obtain ⟨own, middle, adopted, stored⟩ := outcome_bind_eq_ok.mp inner
    cases stored
    have there : engine < middle.engines.size := by
      have leaves : Leaves World.Endures (adopt engine value) := adopt_leaves engine value
      exact Nat.lt_of_lt_of_le known (leaves.along adopted).engines_le
    refine ⟨own, ?_, ?_⟩
    · show ((middle.modifyEngine engine _).engine engine).globals.get? name = some own
      rw [World.engine_modifyEngine_self there, Named.get?_put, if_pos rfl]
    · exact (adopt_receives engine value world sorted own middle adopted).of_store rfl

/-! ### Calls into another engine -/

/-- Arguments that are adopted are all received. -/
theorem adoptAll_receives {engine : EngineId} {values : List Script.Value} :
    ∀ {world after : World} {own : List Script.Value}, world.HasOwnRecords →
      (∀ value ∈ values, world.Knows value) →
      (adoptAll engine values).outcome world = (.ok own, after) →
        List.Forall₂ (after.Receives engine) values own := by
  induction values with
  | nil =>
    intro world after own _ _ ran
    cases ran
    exact .nil
  | cons value rest inductionHypothesis =>
    intro world after own sorted knows ran
    obtain ⟨first, between, adopted, others⟩ := outcome_bind_eq_ok.mp ran
    obtain ⟨others, last, ranOthers, ends⟩ := outcome_bind_eq_ok.mp others
    cases ends
    obtain ⟨middle, adopting, rfl⟩ := outcome_held_eq_ok.mp adopted
    have receives := adopt_receives engine value world sorted first middle adopting
    have start : world.Endures (middle.holding (HoldsCells.cells first)) := by
      have leaves : Leaves World.Endures (held (adopt engine value)) :=
        .held (adopt_leaves engine value)
      exact leaves.along adopted
    have rest : (middle.holding (HoldsCells.cells first)).Endures after := by
      have leaves : Leaves World.Endures (adoptAll engine rest) := adoptAll_leaves engine rest
      exact leaves.along ranOthers
    have onward := inductionHypothesis (start.own sorted)
      (fun value member => (knows value (List.mem_cons_of_mem _ member)).endures start) ranOthers
    have kept : (middle.holding (HoldsCells.cells first)).Receives engine value first :=
      receives.of_store rfl
    exact .cons (kept.endures ((knows value List.mem_cons_self).endures start) rest) onward

/-- A frame comes to the same with bodies that do so where it has entered. -/
theorem outcome_frame_congr {Result : Type} [HoldsCells Result] {world : World}
    {engine : EngineId} {kind : FrameKind} {body other : ScriptRun Result}
    (same : ∀ entered, body.outcome (world.withSession engine entered) =
      other.outcome (world.withSession engine entered)) :
    (frame engine kind body).outcome world = (frame engine kind other).outcome world := by
  unfold frame
  cases enters : (world.session engine).enter kind with
  | error error => rw [outcome_frameWith_refused enters, outcome_frameWith_refused enters]
  | ok entered =>
    rw [outcome_frameWith_entered enters, outcome_frameWith_entered enters]
    refine outcome_bind_of_eq ?_ _
    unfold polledBody
    rw [outcome_settle, outcome_settle, outcome_scope, outcome_scope]
    cases entered.poll with
    | error error => rfl
    | ok polled =>
      rw [outcome_bind_of_ok (outcome_ofExcept_ok _ _),
        outcome_bind_of_ok (outcome_ofExcept_ok _ _), same]

variable {world after : World} {engine : EngineId} {cell : CellId} {arguments : List Script.Value}
  {calls other : Calls}

/-- What a call does with a function of another engine. -/
def callForeign (calls : Calls) (engine : EngineId) (function : Function) (cell : CellId)
    (arguments : List Script.Value) : ScriptRun Script.Value := do
  requireOwner function
  let result ← held (frame engine .foreign do
    let own ← adoptAll function.engine arguments
    mapFailure (foreignFailure engine) (calls.callFunction function.engine cell own))
  adopt engine result

theorem outcome_callFunction_of_foreign (foreign : (world.store.function cell).engine ≠ engine) :
    (callFunction calls engine cell arguments).outcome world =
      (scope (do
        holdCells (cell :: arguments.flatMap Script.Value.cells)
        callForeign calls engine (world.store.function cell) cell arguments)).outcome world := by
  have unlike : ((world.store.function cell).engine == engine) = false :=
    beq_eq_false_iff_ne.mpr foreign
  unfold callFunction
  refine outcome_scope_congr ?_
  rw [outcome_bind_of_ok (outcome_holdCells _ _), outcome_bind_of_ok (outcome_holdCells _ _),
    outcome_bind_of_ok (outcome_readStore _ _)]
  show Run.outcome (if ((world.store.function cell).engine == engine) = true then _ else
    callForeign calls engine (world.store.function cell) cell arguments) _ = _
  rw [unlike, if_neg Bool.false_ne_true]

/-- A function of another engine is called with what its engine has received. -/
theorem callFunction_alike (sorted : world.HasOwnRecords)
    (knows : ∀ value ∈ arguments, world.Knows value)
    (foreign : (world.store.function cell).engine ≠ engine)
    (alike : ∀ (between : World) own,
      List.Forall₂ (between.Receives (world.store.function cell).engine) arguments own →
        (calls.callFunction (world.store.function cell).engine cell own).outcome between =
          (other.callFunction (world.store.function cell).engine cell own).outcome between) :
    (callFunction calls engine cell arguments).outcome world =
      (callFunction other engine cell arguments).outcome world := by
  rw [outcome_callFunction_of_foreign foreign, outcome_callFunction_of_foreign foreign]
  refine outcome_scope_congr (outcome_bind_congr fun _ start holding => ?_)
  cases holding
  refine outcome_bind_congr fun _ between required => ?_
  have endures : world.Endures between := by
    have leaves : Leaves World.Endures (requireOwner (world.store.function cell)) :=
      requireOwner_leaves _
    have holding : world.Endures (world.holding (cell :: arguments.flatMap Script.Value.cells)) :=
      .of_same rfl rfl
    exact RunRelation.trans holding (leaves.along required)
  refine outcome_bind_of_eq (outcome_bind_of_eq (outcome_frame_congr fun entered => ?_) hold) _
  refine outcome_bind_congr fun own middle adopted => ?_
  have entering : between.Endures (between.withSession engine entered) :=
    .modifyEngine fun _ => .refl _
  have received := adoptAll_receives (entering.own (endures.own sorted))
    (fun value member => ((knows value member).endures endures).endures entering) adopted
  rw [outcome_mapFailure, outcome_mapFailure, alike middle own received]

/-- What such a call answers with is no proxy of another engine than the caller's. -/
theorem callFunction_ownsOutermost (reach : calls.Reach World.Endures)
    (sorted : world.HasOwnRecords) (foreign : (world.store.function cell).engine ≠ engine)
    {result : Script.Value} (ran : (callFunction calls engine cell arguments).outcome world = (.ok result, after)) :
    after.OwnsOutermost engine result := by
  have called : Leaves World.Endures (do
      let own ← adoptAll (world.store.function cell).engine arguments
      mapFailure (foreignFailure engine)
        (calls.callFunction (world.store.function cell).engine cell own) :
      ScriptRun Script.Value) :=
    .bind (adoptAll_leaves _ _) fun _ => .mapFailure (reach.callFunction _ _ _)
  rw [outcome_callFunction_of_foreign foreign] at ran
  refine (?_ : Ends _ _ (·.OwnsOutermost engine)) world sorted result after ran
  refine .scope (fun _ _ _ => id) (.bind (.holdCells _) fun _ => .bind (requireOwner_leaves _)
    fun _ => .bind (.held (frame_reaches _ _ called)) fun answer => ?_)
  exact fun world sorted own after ran =>
    (adopt_receives engine answer world sorted own after ran).ownsOutermost

end Script

/-! ### Crossings -/

/-- Whatever crosses into an engine, and however it does, what is received is no proxy of another
engine. -/
structure World.ReceivesOwn (world : World) (calls : Calls) (engine : EngineId) : Prop where
  /-- Values that become globals. -/
  globals : ∀ {name : String} {value : Script.Value} {after : World},
    (Script.writeGlobal engine name value).outcome world = (.ok (), after) →
      ∃ own, (after.engine engine).globals.get? name = some own ∧ after.Receives engine value own
  /-- Values that other engines call its functions with: what a function would do with anything else
  makes no difference. -/
  arguments : ∀ {caller : EngineId} {cell : CellId} {values : List Script.Value} {other : Calls},
    (world.store.function cell).engine = engine → caller ≠ engine →
      (∀ value ∈ values, world.Knows value) →
        (∀ (between : World) own, List.Forall₂ (between.Receives engine) values own →
          (calls.callFunction engine cell own).outcome between =
            (other.callFunction engine cell own).outcome between) →
          (Script.callFunction calls caller cell values).outcome world =
            (Script.callFunction other caller cell values).outcome world
  /-- Values that the functions of other engines answer with. -/
  results : ∀ {cell : CellId} {values : List Script.Value} {result : Script.Value} {after : World},
    (world.store.function cell).engine ≠ engine →
      (Script.callFunction calls engine cell values).outcome world = (.ok result, after) →
        after.OwnsOutermost engine result
  /-- Script values that host state kept. -/
  handles : ∀ {handle : CellId} {kept own : Script.Value} {declared : TypeRef} {after : World},
    world.store.handle? handle = some kept →
      (toScript calls engine (.script handle) declared).outcome world = (.ok own, after) →
        after.Receives engine kept own
  /-- Host values of every kind. -/
  values : ∀ {value : Host.Value} {own : Script.Value} {declared : TypeRef} {after : World},
    (toScript calls engine value declared).outcome world = (.ok own, after) →
      after.OwnsOutermost engine own

/-- No engine has made a proxy yet. -/
def World.HasEmptyRecords (world : World) : Prop :=
  ∀ engine, (world.engine engine).cache.entries = []

/-- At every moment of every run, an engine receives proxies of its own in place of those of others,
and everything else as it is. -/
theorem outermost_proxies_are_own {depth : Nat} {start world : World}
    (fresh : start.HasEmptyRecords) (goesOn : World.Later (Script.startWithin depth) start world)
    {engine : EngineId} (known : engine < world.engines.size) :
    world.ReceivesOwn (Script.startWithin depth) engine := by
  have reach : (Script.startWithin depth).Reach World.Endures := Script.startWithin_goes depth
  have sorted : world.HasOwnRecords := by
    refine goesOn.endures.own fun engine cell listed => ?_
    rw [fresh engine] at listed
    cases listed
  exact {
    globals := Script.writeGlobal_receives sorted known
    arguments := fun own foreign knows alike => by
      subst own
      exact Script.callFunction_alike sorted knows foreign.symm alike
    results := fun foreign ran => Script.callFunction_ownsOutermost reach sorted foreign ran
    handles := toScript_receives sorted
    values := toScript_ownsOutermost reach engine _ _ world sorted _ _ }

/-- Two engines that have made nothing. -/
def mainAndOther : World := { engines := #[Engine.new "main" {} none, Engine.new "other" {} none] }

theorem mainAndOther_hasEmptyRecords : mainAndOther.HasEmptyRecords
  | 0 | 1 | _ + 2 => rfl

/-- The second engine receives a box of the first. -/
theorem outermost_proxies_are_own_of_box :
    let world := (mainAndOther.create (.proxy ⟨0, .boxed (.bool true), none, .none⟩)).1
    mainAndOther.HasEmptyRecords ∧ 1 < world.engines.size ∧
      world.ReceivesOwn (Script.startWithin 0) 1 := by
  intro world
  have goesOn : World.Later (Script.startWithin 0) mainAndOther world := .single (.create _ _)
  have known : 1 < world.engines.size := Nat.lt_add_one 1
  exact ⟨mainAndOther_hasEmptyRecords, known,
    outermost_proxies_are_own mainAndOther_hasEmptyRecords goesOn known⟩

/-- The second engine receives an array of the first as it is, with a box of the first in it. -/
theorem nested_proxies_stay_foreign :
    let box : Cell := .proxy ⟨0, .boxed (.bool true), none, .none⟩
    let world := ((mainAndOther.create box).1.create (.scriptArray #[.proxy 0])).1
    ∃ after, (Script.writeGlobal 1 "list" (.array 1)).outcome world = (.ok (), after) ∧
      (after.engine 1).globals.get? "list" = some (.array 1) ∧
        (after.store.scriptItems 1)[0]? = some (.proxy 0) ∧
          (after.store.proxy? 0).map (·.engine) = some 0 :=
  ⟨_, rfl, rfl, rfl, rfl⟩

end ScriptBridge
