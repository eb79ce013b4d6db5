/-
This file compares a collection that is put off to the end of a call with one
asked for right after the call. Both calls end alike. What is put off is a sweep
only: the script side is not asked to collect, and the roots of proxies are
released once, so the tickets of proxies that die with the targets of those roots
wait on. Collecting once more does the rest and comes to what the collection after
the call comes to.
-/

import ScriptBridge.Proofs.Changes
import ScriptBridge.Proofs.Owing

namespace ScriptBridge

open Run Bridge

/-! ### What sweeping does to a record -/

namespace ProxyCache

theorem prune_prune (cache : ProxyCache) {isLive lived : CellId → Bool}
    (living : ∀ cell, isLive cell = true → lived cell = true) :
    ((cache.prune lived).1.prune isLive).1 = (cache.prune isLive).1 := by
  have again {Key : Type} (entries : List (Key × CellId)) :
      (entries.filter fun entry => lived entry.2).filter (fun entry => isLive entry.2) =
        entries.filter fun entry => isLive entry.2 := by
    rw [List.filter_filter]
    refine List.filter_congr fun entry _ => ?_
    cases lives : isLive entry.2 with
    | false => rfl
    | true => exact living _ lives
  unfold prune
  dsimp only
  rw [again, again]

theorem drain_of_tickets_eq_nil {cache : ProxyCache} (none_waits : cache.tickets = []) :
    cache.drain.1 = cache := by
  unfold drain
  have kept : cache.roots.filter (fun root => !cache.tickets.contains root.1) = cache.roots := by
    rw [none_waits]
    exact List.filter_true _
  dsimp only
  rw [kept, ← none_waits]

end ProxyCache

/-! ### What sweeping does to a world -/

namespace World

variable {world before after : World} {engine : EngineId}

/-- Only what a change makes of the record as it is matters. -/
theorem changeCache_congr {change twin : ProxyCache → ProxyCache}
    (same : change (world.engine engine).cache = twin (world.engine engine).cache) :
    world.changeCache engine change = world.changeCache engine twin :=
  modifyEngine_congr (congrArg (fun cache => ({ world.engine engine with cache } : Engine)) same)

/-- The world with the tickets of an engine drained and the roots they name gone. -/
def drained (world : World) (engine : EngineId) : World := world.changeCache engine (·.drain.1)

/-- The world without the entries that an engine has of dead proxies. -/
def pruned (world : World) (engine : EngineId) : World :=
  world.changeCache engine (·.prune world.store.isLive |>.1)

/-- The world after the roots of proxies that have died are released. -/
def released (world : World) (engine : EngineId) : World := world.reap.drained engine

/-- The world after a sweep. -/
def swept (world : World) (engine : EngineId) : World := (world.released engine).reap.pruned engine

/-- Does the engine owe a collection? -/
def owes (world : World) (engine : EngineId) : Bool := (world.session engine).collectionOwed

/-- The world with other cells in use. -/
def withHeld (world : World) (held : List CellId) : World := { world with held }

/-- The world after the script side has been asked for one more collection. -/
def asking (world : World) : World := { world with collections := world.collections + 1 }

theorem asking_sparesCells : SparesCells asking where
  store _ := rfl
  anchors _ := rfl
  bury world cell := by
    unfold bury
    rw [show world.asking.store = world.store from rfl]
    cases world.store.get? cell with
    | none => rfl
    | some contents => cases contents <;> rfl

theorem swept_asking (world : World) (engine : EngineId) :
    world.asking.swept engine = (world.swept engine).asking := by
  have sparing := asking_sparesCells
  have drains : world.reap.asking.drained engine = (world.reap.drained engine).asking := rfl
  unfold swept released
  rw [sparing.reap, drains, sparing.reap]
  rfl

/-- Nothing dies with an entry. -/
theorem changeCache_prune_sparesCells (engine : EngineId) (isLive : CellId → Bool) :
    SparesCells (·.changeCache engine (·.prune isLive |>.1)) :=
  .modifyEngine engine (fun _ => rfl) fun _ _ => rfl

theorem Burials.isLive {before after : World} (burials : Burials before after) {cell : CellId}
    (living : after.store.isLive cell = true) : before.store.isLive cell = true := by
  induction burials with
  | refl => exact living
  | tail _ last inductionHypothesis =>
    obtain ⟨found, _⟩ := last
    refine inductionHypothesis ?_
    rw [store_bury found] at living
    obtain ⟨contents, kept⟩ := Store.isLive_iff.mp living
    exact Store.isLive_iff.mpr ⟨contents, Store.get?_of_get?_remove kept⟩

/-- Burials leave the cells in use and the count of collections, and of an engine's record all but
its tickets. -/
structure KeepsRoots (engine : EngineId) (before after : World) : Prop where
  held : after.held = before.held
  collections : after.collections = before.collections
  size : after.engines.size = before.engines.size
  roots : engine < before.engines.size →
    (after.engine engine).cache.roots = (before.engine engine).cache.roots

theorem Burials.keepsRoots {before after : World} (burials : Burials before after) :
    KeepsRoots engine before after := by
  induction burials with
  | refl => exact ⟨rfl, rfl, rfl, fun _ => rfl⟩
  | @tail between _ _ last inductionHypothesis =>
    obtain @⟨cell, contents, found, _⟩ := last
    refine ⟨?_, ?_, (size_bury found).trans inductionHypothesis.size, fun known => ?_⟩
    · rw [← inductionHypothesis.held, bury_of_get? found]
      cases contents <;> rfl
    · rw [← inductionHypothesis.collections, bury_of_get? found]
      cases contents <;> rfl
    · rw [← inductionHypothesis.roots known,
        engine_bury (inductionHypothesis.size.symm ▸ known) found]

/-- Pruning for the dead again comes to pruning for all that are dead by now. -/
theorem pruned_changeCache (world : World) (engine : EngineId) {isLive : CellId → Bool}
    (lived : ∀ cell, world.store.isLive cell = true → isLive cell = true) :
    (world.changeCache engine (·.prune isLive |>.1)).pruned engine = world.pruned engine := by
  have once : (world.changeCache engine (·.prune isLive |>.1)).pruned engine =
      world.changeCache engine fun cache => ((cache.prune isLive).1.prune world.store.isLive).1 :=
    world.modifyEngine_modifyEngine engine _ _
  have same : ∀ cache : ProxyCache, ((cache.prune isLive).1.prune world.store.isLive).1 =
      (cache.prune world.store.isLive).1 := fun cache => cache.prune_prune lived
  rw [once]
  simp only [same]
  rfl

/-- A sweep leaves nothing to reap. -/
theorem reap_swept (world : World) (engine : EngineId) :
    (world.swept engine).reap = world.swept engine := by
  let before := (world.released engine).reap
  have settled : before.reap = before := (world.released engine).reap_spec.2.reap_eq
  have sparing := changeCache_prune_sparesCells engine before.store.isLive
  have reaped := sparing.reap before
  rw [settled] at reaped
  exact reaped

/-- A sweep after another comes to a sweep after what the other began with. -/
theorem swept_swept (world : World) (engine : EngineId) :
    (world.swept engine).swept engine = (world.released engine).swept engine := by
  let before := (world.released engine).reap
  have commutes : (before.changeCache engine (·.prune before.store.isLive |>.1)).drained engine =
      (before.drained engine).changeCache engine (·.prune before.store.isLive |>.1) :=
    modifyEngine_comm fun _ _ => rfl
  have reaped : ((world.swept engine).released engine).reap =
      (before.drained engine).reap.changeCache engine (·.prune before.store.isLive |>.1) := by
    unfold released
    rw [reap_swept, ← (changeCache_prune_sparesCells engine before.store.isLive).reap, ← commutes]
    rfl
  show ((world.swept engine).released engine).reap.pruned engine =
    (before.drained engine).reap.pruned engine
  rw [reaped]
  exact pruned_changeCache _ engine fun _ => (before.drained engine).reap_spec.1.isLive

/-- A sweep that leaves no ticket has released all there was to release. -/
theorem swept_released (world : World) (engine : EngineId)
    (none_waits : ((world.swept engine).engine engine).cache.tickets = []) :
    (world.released engine).swept engine = world.swept engine := by
  let before := (world.released engine).reap
  have drained : (world.swept engine).drained engine = world.swept engine := by
    have same : (world.swept engine).drained engine = (world.swept engine).changeCache engine id :=
      changeCache_congr (ProxyCache.drain_of_tickets_eq_nil none_waits)
    exact same.trans (modifyEngine_id _ engine)
  have again : (before.pruned engine).pruned engine = before.pruned engine :=
    pruned_changeCache before engine fun _ => id
  rw [← swept_swept]
  show (((world.swept engine).reap.drained engine).reap).pruned engine = world.swept engine
  rw [reap_swept, drained, reap_swept]
  exact again

theorem KeepsRoots.released (world : World) (engine : EngineId) :
    (world.released engine).held = world.held ∧
      (world.released engine).collections = world.collections ∧
        (world.released engine).engines.size = world.engines.size := by
  have reaped : KeepsRoots engine world world.reap := world.reap_spec.1.keepsRoots
  exact ⟨reaped.held, reaped.collections, (size_modifyEngine _ _ _).trans reaped.size⟩

theorem tickets_released (world : World) {engine : EngineId} (known : engine < world.engines.size) :
    ((world.released engine).engine engine).cache.tickets = [] := by
  have reaped : KeepsRoots engine world world.reap := world.reap_spec.1.keepsRoots
  unfold World.released World.drained
  rw [engine_changeCache (reaped.size.symm ▸ known)]
  rfl

/-- What a sweep leaves of the record beside what every call's end leaves of it. -/
theorem KeepsRoots.swept (world : World) (engine : EngineId) :
    KeepsRoots engine (world.released engine) (world.swept engine) := by
  have reaped : KeepsRoots engine (world.released engine) (world.released engine).reap :=
    (world.released engine).reap_spec.1.keepsRoots
  refine ⟨reaped.held, reaped.collections, (size_modifyEngine _ _ _).trans reaped.size,
    fun known => ?_⟩
  rw [← reaped.roots known]
  unfold World.swept pruned
  rw [engine_changeCache (reaped.size.symm ▸ known)]
  rfl

/-- A sweep leaves entries of living proxies only. -/
theorem isLive_of_mem_swept (world : World) {engine : EngineId}
    (known : engine < world.engines.size) {entry : CellId}
    (listed : entry ∈ ((world.swept engine).engine engine).cache.entries) :
    (world.swept engine).store.isLive entry = true := by
  let before := (world.released engine).reap
  have inside : engine < before.engines.size := by
    have reaped : KeepsRoots engine (world.released engine) before :=
      (world.released engine).reap_spec.1.keepsRoots
    rw [reaped.size, (KeepsRoots.released world engine).2.2]
    exact known
  show before.store.isLive entry = true
  have found : (world.swept engine).engine engine =
      { before.engine engine with
        cache := ((before.engine engine).cache.prune before.store.isLive).1 } :=
    engine_changeCache inside
  rw [found] at listed
  unfold ProxyCache.entries ProxyCache.prune at listed
  rw [List.mem_append, List.mem_map, List.mem_map] at listed
  rcases listed with ⟨_, kept, rfl⟩ | ⟨_, kept, rfl⟩
  · exact (List.mem_filter.mp kept).2
  · exact (List.mem_filter.mp kept).2

end World

/-! ### What is done on idling -/

namespace Bridge

variable {Failure : Type} {engine : EngineId} {world : World}

theorem outcome_sweep (engine : EngineId) (world : World) :
    ∃ told, (sweep engine : Run Failure Swept).outcome world = (.ok told, world.swept engine) ∧
      world.KeepsSessions (world.swept engine) := by
  have quiet : (sweep engine : Run Failure Swept).IsQuiet := sweep_isQuiet engine
  obtain ⟨told, after, ran, kept⟩ := quiet world
  have left : ((sweep engine : Run Failure Swept).outcome world).2 = world.swept engine :=
    outcome_sweep_world engine world
  rw [ran] at left
  cases left
  exact ⟨told, ran, kept⟩

theorem keepsSessions_released (world : World) (engine : EngineId) :
    world.KeepsSessions (world.released engine) := by
  have quiet : (releaseDropped engine : ScriptRun Nat).IsQuiet := releaseDropped_isQuiet engine
  obtain ⟨told, after, ran, kept⟩ := quiet world
  rw [outcome_releaseDropped] at ran
  cases ran
  exact kept

theorem keepsSessions_swept (world : World) (engine : EngineId) :
    world.KeepsSessions (world.swept engine) := by
  obtain ⟨_, -, kept⟩ : ∃ told, (sweep engine : ScriptRun Swept).outcome world =
    (.ok told, world.swept engine) ∧ world.KeepsSessions _ := outcome_sweep engine world
  exact kept

theorem outcome_settleEngine (engine : EngineId) (owed : Bool) (world : World) :
    (settleEngine engine owed).outcome world =
      (.ok (), if owed then world.swept engine else world.released engine) := by
  cases owed with
  | true =>
    obtain ⟨told, ran, -⟩ : ∃ told, (sweep engine : ScriptRun Swept).outcome world =
      (.ok told, world.swept engine) ∧ _ := outcome_sweep engine world
    exact outcome_bind_of_ok ran
  | false => exact outcome_bind_of_ok (outcome_releaseDropped engine world)

/-- A collection asked for between calls asks the script side, and sweeps. -/
theorem outcome_collect_world {engine : EngineId} {world : World}
    (idle : ¬(world.session engine).isBusy = true) :
    ∃ told, (collect engine : Run Failure (Option Swept)).outcome world =
      (.ok (some told), (world.swept engine).asking) := by
  obtain ⟨told, ran, -⟩ : ∃ told, (sweep engine : Run Failure Swept).outcome world.asking =
    (.ok told, world.asking.swept engine) ∧ _ := outcome_sweep engine world.asking
  refine ⟨told, ?_⟩
  unfold World.session at idle
  unfold collect
  rw [outcome_bind_of_ok (outcome_engine engine world), if_neg idle,
    outcome_bind_of_ok (outcome_update _ world), ← World.swept_asking]
  exact outcome_bind_of_ok ran

/-- Asks for a collection while cells are in use. -/
def collectHolding (engine : EngineId) (cells : List CellId) : ScriptRun (Option Swept) :=
  scope (do holdCells cells; collect engine)

/-- Runs a body as a frame of an engine, which does after it what it does after every call, whatever
it owes. -/
def forgetfulFrame {Result : Type} [HoldsCells Result] (engine : EngineId) (kind : FrameKind)
    (body : ScriptRun Result) : ScriptRun Result :=
  frameWith (fun _ => settleEngine engine false) engine kind body

/-- What a frame runs before it is left. -/
def enteredBody {Result : Type} (engine : EngineId) (kind : FrameKind) (body : ScriptRun Result) :
    ScriptRun (Except ScriptError Result) := do
  let entered ← ofExcept ((← Run.engine engine).session.enter kind)
  modifyEngine engine fun engine => { engine with session := entered }
  polledBody entered body

section Frames

variable {Result : Type} {kind : FrameKind} {body : ScriptRun Result} {entered : Session}
  {inside : World} {outcome : Except ScriptError Result} {cells : List CellId}

theorem outcome_enteredBody (enters : (world.session engine).enter kind = .ok entered) :
    (enteredBody engine kind body).outcome world =
      (polledBody entered body).outcome (world.withSession engine entered) := by
  unfold World.session at enters
  unfold enteredBody
  rw [outcome_bind_of_ok (outcome_engine engine world), enters]
  rfl

theorem enters_of_enteredBody
    (ends : (enteredBody engine kind body).outcome world = (.ok outcome, inside)) :
    ∃ entered, (world.session engine).enter kind = .ok entered := by
  cases enters : (world.session engine).enter kind with
  | ok entered => exact ⟨entered, rfl⟩
  | error error =>
    unfold World.session at enters
    unfold enteredBody at ends
    rw [outcome_bind_of_ok (outcome_engine engine world), enters] at ends
    cases ends

theorem outcome_idled (engine : EngineId) (owed : Bool) (cells : List CellId) (world : World) :
    (scope (do holdCells cells; settleEngine engine owed)).outcome world =
      (.ok (), (if owed then (world.holding cells).swept engine
        else (world.holding cells).released engine).withHeld world.held) := by
  rw [outcome_scope, outcome_bind_of_ok (outcome_holdCells cells world), outcome_settleEngine]
  rfl

/-- A collection asked for while the same cells are in use goes on from the same world. -/
theorem outcome_collectHolding {before : World} (idle : ¬(before.session engine).isBusy = true)
    (held : before.held = (world.holding cells).held) :
    ∃ told, (collectHolding engine cells).outcome (before.withHeld world.held) =
      (.ok (some told), (before.swept engine).asking.withHeld world.held) := by
  have same : (before.withHeld world.held).holding cells = before := by
    show { before with held := (world.holding cells).held } = before
    rw [← held]
  obtain ⟨told, ran⟩ : ∃ told, (collect engine : ScriptRun (Option Swept)).outcome before =
    (.ok (some told), (before.swept engine).asking) := outcome_collect_world idle
  refine ⟨told, ?_⟩
  unfold collectHolding
  rw [outcome_scope, outcome_bind_of_ok (outcome_holdCells cells _), same, ran]
  rfl

end Frames

/-! ### Collections put off -/

/-- A deferred collection beside an immediate one. Both calls have released the roots of the proxies
that had died by their end; putting the collection off has also removed the entries of dead proxies,
but the script side was not asked. What is missing is what one more collection does, and only the
asking is missing where no proxy has died of the release. -/
structure OnlySweeps (engine : EngineId) (cells : List CellId)
    (released deferred immediate : World) : Prop where
  drained : (released.engine engine).cache.tickets = []
  roots : (deferred.engine engine).cache.roots = (released.engine engine).cache.roots
  pruned : ∀ entry ∈ (deferred.engine engine).cache.entries, deferred.store.isLive entry = true
  unasked : deferred.collections = released.collections
  asked : immediate.collections = released.collections + 1
  rest : ∃ told, (collectHolding engine cells).outcome deferred = (.ok (some told), immediate)
  whole : (deferred.engine engine).cache.tickets = [] → immediate = deferred.asking

/-- Which cells are in use does not matter to what was done. -/
theorem OnlySweeps.of_held {released deferred immediate : World} {cells held : List CellId}
    (drained : (released.engine engine).cache.tickets = [])
    (roots : (deferred.engine engine).cache.roots = (released.engine engine).cache.roots)
    (pruned : ∀ entry ∈ (deferred.engine engine).cache.entries,
      deferred.store.isLive entry = true)
    (unasked : deferred.collections = released.collections)
    (asked : immediate.collections = released.collections + 1)
    (rest : ∃ told, (collectHolding engine cells).outcome (deferred.withHeld held) =
      (.ok (some told), immediate.withHeld held))
    (whole : (deferred.engine engine).cache.tickets = [] → immediate = deferred.asking) :
    OnlySweeps engine cells (released.withHeld held) (deferred.withHeld held)
      (immediate.withHeld held) where
  drained := drained
  roots := roots
  pruned := pruned
  unasked := unasked
  asked := asked
  rest := rest
  whole none_waits := congrArg (·.withHeld held) (whole none_waits)

/-- Sweeping at the end of a call only sweeps. -/
theorem onlySweeps (known : engine < world.engines.size)
    (idle : ¬(world.session engine).isBusy = true) (cells : List CellId) :
    ∃ immediate told,
      (collectHolding engine cells).outcome
          (((world.holding cells).released engine).withHeld world.held) =
        (.ok (some told), immediate) ∧
      OnlySweeps engine cells (((world.holding cells).released engine).withHeld world.held)
        (((world.holding cells).swept engine).withHeld world.held) immediate := by
  let start := world.holding cells
  have knownStart : engine < start.engines.size := known
  obtain ⟨held, collections, size⟩ := World.KeepsRoots.released start engine
  have swept := World.KeepsRoots.swept start engine
  have again := World.KeepsRoots.swept (start.released engine) engine
  have idleReleased : ¬((start.released engine).session engine).isBusy = true := by
    rw [(keepsSessions_released start engine).session]
    exact idle
  have idleSwept : ¬((start.swept engine).session engine).isBusy = true := by
    rw [(keepsSessions_swept start engine).session]
    exact idle
  obtain ⟨told, immediate⟩ := outcome_collectHolding idleReleased held
  obtain ⟨toldAgain, rest⟩ := outcome_collectHolding idleSwept (swept.held.trans held)
  rw [World.swept_swept] at rest
  refine ⟨_, told, immediate, .of_held ?_ (swept.roots ?_) ?_ swept.collections ?_
    ⟨toldAgain, rest⟩ fun none_waits => ?_⟩
  · exact World.tickets_released start knownStart
  · rw [size]
    exact knownStart
  · exact fun entry => World.isLive_of_mem_swept start knownStart
  · have total := again.collections.trans
      (World.KeepsRoots.released (start.released engine) engine).2.1
    exact congrArg (· + 1) total
  · exact congrArg World.asking (World.swept_released start engine none_waits)

section Calls

variable {Result : Type} [HoldsCells Result] {kind : FrameKind} {body : ScriptRun Result}
  {inside : World} {outcome : Except ScriptError Result}

/-- An engine with a frame is one that there is. -/
theorem lt_size_of_outermost (outermost : (world.session engine).depth = 1) :
    engine < world.engines.size := by
  by_contra missing
  unfold World.session World.engine at outermost
  rw [Array.getElem?_eq_none (Nat.le_of_not_lt missing)] at outermost
  cases outermost

omit [HoldsCells Result] in
/-- What is asked for in the body of a frame is owed when the body has ended. -/
theorem owed_of_requests {next : World} {plain : ScriptRun Result}
    (enters : world.Enters engine kind next) (requests : Requests engine next body plain)
    (ends : (enteredBody engine kind body).outcome world = (.ok outcome, inside))
    (knownInside : engine < inside.engines.size) : inside.owes engine = true := by
  obtain ⟨known, entered, enters, unasked, rfl⟩ := enters
  rw [outcome_enteredBody enters] at ends
  have calling := isCalling_entered_self known enters
  have goes : KeepsPace engine (world.withSession engine entered) false true
      (polledBody entered body) (polledBody entered plain) :=
    polledBody_keepsPace unasked calling (requests.owes calling false) false
  obtain ⟨_, after, -, ran, -⟩ := goes
  rw [World.owingIf_false, ends] at ran
  obtain ⟨-, rfl⟩ := Prod.mk.inj ran
  have knownAfter : engine < after.engines.size := by
    rw [← World.size_modifyEngine after engine]
    exact knownInside
  unfold World.owes
  rw [World.session_owingIf knownAfter, beq_self_eq_true]
  rfl

/-- The frame of the plain run, which asks for nothing, ends as if the debt were forgotten. -/
theorem outcome_frame_plain {plain : ScriptRun Result} {left : Session}
    (known : engine < world.engines.size)
    (ends : (enteredBody engine kind body).outcome world = (.ok outcome, inside))
    (outermost : (inside.session engine).depth = 1)
    (leaves : (inside.session engine).leave (failure? outcome) = (left, some (inside.owes engine)))
    (requests : MayRequest engine body plain)
    (unasked : ((enteredBody engine kind plain).outcome world).2.owes engine = false) {last : World}
    (idled : (scope (do holdCells (outcomeCells outcome); settleEngine engine false)).outcome
      (inside.withSession engine left) = (.ok (), last)) :
    (frame engine kind plain).outcome world = (ofExcept outcome).outcome last := by
  obtain ⟨entered, enters⟩ := enters_of_enteredBody ends
  rw [outcome_enteredBody enters] at ends unasked
  have may : MayOwe engine (polledBody entered body) (polledBody entered plain) :=
    polledBody_mayOwe requests.mayOwe false
  obtain ⟨more, ended, after, plainRan, ran, -⟩ := may (isCalling_entered_self known enters) false
  rw [World.owingIf_false, ends] at ran
  obtain ⟨rfl, rfl⟩ := Prod.mk.inj ran
  have knownAfter : engine < after.engines.size := by
    rw [← World.size_modifyEngine after engine]
    exact lt_size_of_outermost outermost
  unfold World.owes at leaves unasked
  rw [World.session_owingIf knownAfter] at outermost leaves
  have depth : (after.session engine).depth = 1 := outermost
  obtain ⟨leftPlain, leavesPlain, leavesOwing⟩ := Session.leave_oweIf_of_outermost depth
    (engine == engine && (more || false)) (failure? outcome)
  cases leaves.symm.trans leavesOwing
  rw [plainRan] at unasked
  rw [unasked] at leavesPlain
  rw [World.withSession_of_owingIf] at idled
  exact outcome_frameWith_outermost enters plainRan leavesPlain idled

/-- A collection that is asked for anywhere in a call is owed when its outermost frame is left. A
call that owes one then, however it came to, ends as it does where the debt is forgotten, and as
the plain call without the requests; but the engine has swept only, and has not collected. -/
theorem deferred_collection_only_sweeps (known : engine < world.engines.size)
    (ends : (enteredBody engine kind body).outcome world = (.ok outcome, inside))
    (outermost : (inside.session engine).depth = 1) :
    (∀ next plain, world.Enters engine kind next → Requests engine next body plain →
      inside.owes engine = true) ∧
    (inside.owes engine = true → ∃ released deferred immediate told,
      (forgetfulFrame engine kind body).outcome world = (ofExcept outcome).outcome released ∧
      (∀ plain, MayRequest engine body plain →
        ((enteredBody engine kind plain).outcome world).2.owes engine = false →
          (frame engine kind plain).outcome world = (ofExcept outcome).outcome released) ∧
      (frame engine kind body).outcome world = (ofExcept outcome).outcome deferred ∧
      (collectHolding engine (outcomeCells outcome)).outcome released =
        (.ok (some told), immediate) ∧
      OnlySweeps engine (outcomeCells outcome) released deferred immediate) := by
  have knownInside : engine < inside.engines.size := lt_size_of_outermost outermost
  refine ⟨fun next plain enters requests => owed_of_requests enters requests ends knownInside,
    fun owed => ?_⟩
  obtain ⟨left, leaves, popped, -⟩ := Session.leave_of_outermost outermost (failure? outcome)
  obtain ⟨entered, enters⟩ := enters_of_enteredBody ends
  have ran := ends
  rw [outcome_enteredBody enters] at ran
  let start := inside.withSession engine left
  have knownStart : engine < start.engines.size := by
    rw [World.size_withSession]
    exact knownInside
  have idle : ¬(start.session engine).isBusy = true := by
    rw [World.session_withSession_self knownInside, Session.isBusy_iff]
    unfold Session.depth at outermost ⊢
    rw [popped]
    show ¬0 < (inside.session engine).frames.depth - 1
    rw [outermost]
    exact Nat.lt_irrefl 0
  have forgets := outcome_idled engine false (outcomeCells outcome) start
  obtain ⟨immediate, told, collected, sweeps⟩ := onlySweeps knownStart idle (outcomeCells outcome)
  refine ⟨_, _, immediate, told, ?_, fun plain requests unasked => ?_, ?_, collected, sweeps⟩
  · exact outcome_frameWith_outermost enters ran leaves forgets
  · exact outcome_frame_plain known ends outermost leaves requests unasked forgets
  · rw [show (inside.session engine).collectionOwed = true from owed] at leaves
    exact outcome_frameWith_outermost enters ran leaves (outcome_idled engine true _ start)

end Calls

/-- The engine has proxies of two objects, and the first object holds the proxy of the second.
Script holds neither. -/
def chained : World :=
  let first : Proxy := ⟨0, .reference (.object 0), none, .none⟩
  let second : Proxy := ⟨0, .reference (.object 3), none, .none⟩
  { store := { cells := #[
      some (.object { type := 0, state := [("next", .script 1)] }), some (.handle (.proxy 4)),
      some (.proxy first), some (.object { type := 0 }), some (.proxy second)] }
    engines := #[{ Engine.new "main" {} none with
      cache := { roots := [(2, .object 0), (4, .object 3)] } }]
    heap := { proxies := 2 } }

/-- The collection is asked for inside another frame, by a call of host code from script. -/
theorem deferred_collection_only_sweeps_nested :
    let body (asking : ScriptRun (Option Swept)) := frame 0 .hostCall (discard asking)
    let called := chained.withSession 0
      { state := .running, frames := FrameStack.push {} .script, maxDepth := 256 }
    0 < chained.engines.size ∧ chained.Enters 0 .script called ∧
      Requests 0 called (body (collect 0)) (body (pure none)) ∧
        ∃ released deferred immediate told,
          (frame 0 .script (body (pure none))).outcome chained = (.ok (), released) ∧
          (frame 0 .script (body (collect 0))).outcome chained = (.ok (), deferred) ∧
          (collectHolding 0 []).outcome released = (.ok (some told), immediate) ∧
          OnlySweeps 0 [] released deferred immediate := by
  intro body called
  have known : 0 < chained.engines.size := by decide
  have enters : chained.Enters 0 .script called := ⟨known, _, rfl, rfl, rfl⟩
  have further : called.Enters 0 .hostCall (called.withSession 0
      { state := .running, frames := .push (.push {} .script) .hostCall, maxDepth := 256 }) :=
    ⟨known, _, rfl, rfl, rfl⟩
  have requests : Requests 0 called (body (collect 0)) (body (pure none)) :=
    .frame further (.first (.collect _) fun _ => .heedless (.pure ()))
  have mayRequest : MayRequest 0 (body (collect 0)) (body (pure none)) :=
    .frame 0 .hostCall (.bind .collect fun _ => .heedless (.pure ()))
  obtain ⟨owed, sweeps⟩ := deferred_collection_only_sweeps known
    (show (enteredBody 0 .script (body (collect 0))).outcome chained = (.ok (.ok ()), _) from rfl)
    (by decide +kernel)
  obtain ⟨released, deferred, immediate, told, -, plain, defers, collected, only⟩ :=
    sweeps (owed called _ enters requests)
  exact ⟨known, enters, requests, released, deferred, immediate, told,
    plain _ mayRequest (by decide +kernel), defers, collected, only⟩

/-- The collection that is put off leaves the proxy of the second object its root, and does not ask
the script side to collect. Right after the call it does both. -/
theorem deferred_collection_leaves_work :
    let asks : ScriptRun Unit := frame 0 .script (frame 0 .hostCall (discard (collect 0)))
    let asksAfter : ScriptRun Unit := do
      frame 0 .script (frame 0 .hostCall (pure ()))
      discard (collect 0)
    let deferred := (asks.outcome chained).2
    let immediate := (asksAfter.outcome chained).2
    (deferred.collections = 0 ∧ (deferred.engine 0).cache.roots.length = 1) ∧
      immediate.collections = 1 ∧ (immediate.engine 0).cache.roots.length = 0 := by
  decide +kernel

end Bridge

end ScriptBridge
