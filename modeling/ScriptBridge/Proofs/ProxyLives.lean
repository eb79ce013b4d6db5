/-
This file follows the proxies of an engine through every sequence of calls on its
record: proxies asked for, handles kept and dropped, cells made and changed, the
record drained, swept and disposed. What nothing holds any more is gone before
the next call. Each call is made of steps that keep the record in order, so a
living proxy is found again by its key and leads to its target until the engine
is disposed, and none leads anywhere afterwards.
-/

import ScriptBridge.Bridge.Proxying
import ScriptBridge.Proofs.Outcome
import ScriptBridge.Proofs.ProxySteps

namespace ScriptBridge

open Bridge Run World

/-! ### What runs do to the record -/

/-- A change that puts a changed record back is a change of the record. -/
theorem modifyEngine_cache (world : World) (engine : EngineId) (change : ProxyCache → ProxyCache) :
    world.modifyEngine engine (fun state =>
      { state with cache := change (world.engine engine).cache }) =
        world.changeCache engine change :=
  modifyEngine_congr rfl

theorem outcome_releaseDropped {Failure : Type} (engine : EngineId) (world : World) :
    (releaseDropped engine : Run Failure Nat).outcome world =
      (.ok (world.reap.engine engine).cache.drain.2,
        world.reap.changeCache engine (·.drain.1)) := by
  rw [← modifyEngine_cache]
  rfl

theorem outcome_sweep_world {Failure : Type} (engine : EngineId) (world : World) :
    ((sweep engine : Run Failure Swept).outcome world).2 =
      (world.reap.changeCache engine (·.drain.1)).reap.changeCache engine
        (·.prune (world.reap.changeCache engine (·.drain.1)).reap.store.isLive |>.1) := by
  unfold sweep
  rw [outcome_bind_of_ok (outcome_releaseDropped engine world)]
  exact modifyEngine_cache (world.reap.changeCache engine (·.drain.1)).reap engine
    (·.prune (world.reap.changeCache engine (·.drain.1)).reap.store.isLive |>.1)

section

variable {Key : Type} [BEq Key]

/-- Looking for an entry reaps where there is one. -/
theorem outcome_findLive (entries : List (Key × CellId)) (key : Key) (world : World) :
    ∃ between, (between = world ∨ between = world.reap) ∧
      (findLive entries key).outcome world =
        (.ok (ProxyCache.find? entries between.store.isLive key), between) := by
  unfold findLive
  by_cases present : entries.any (fun entry => entry.1 == key) = true
  · refine ⟨world.reap, .inr rfl, ?_⟩
    rw [if_pos present]
    rfl
  · refine ⟨world, .inl rfl, ?_⟩
    rw [if_neg present]
    rfl

theorem outcome_findOrMake (entries : ProxyCache → List (Key × CellId))
    (add : ProxyCache → CellId → ProxyCache) (key : Key) (proxy : Proxy) (world : World) :
    ∃ between, (between = world ∨ between = world.reap) ∧
      (findOrMake entries add key proxy).outcome world =
        match ProxyCache.find? (entries (world.engine proxy.engine).cache) between.store.isLive key with
        | some found => (.ok found, { between with held := found :: between.held })
        | none =>
          (.ok between.store.cells.size,
            { (between.create (.proxy proxy)).1.changeCache proxy.engine
                (add · between.store.cells.size) with
              held := between.store.cells.size :: between.held }) := by
  obtain ⟨between, reaped, looked⟩ :=
    outcome_findLive (entries (world.engine proxy.engine).cache) key world
  refine ⟨between, reaped, ?_⟩
  unfold findOrMake
  show ((findLive (entries (world.engine proxy.engine).cache) key >>= _).outcome world) = _
  rw [outcome_bind_of_ok looked]
  cases ProxyCache.find? (entries (world.engine proxy.engine).cache) between.store.isLive key <;> rfl

end

/-- Finding the proxy of a value comes to finding its key. -/
theorem findReference_eq (engine : EngineId) (value : Host.Value) (view : Option Host.TypeKey)
    (flags : ItemFlags) :
    findReference engine value view flags = (do
      requireCache engine
      match ReferenceKey.of? value view flags with
      | some key =>
        findOrMake (·.references) (·.addReference key · value) key
          ⟨engine, .reference value, view, flags⟩
      | none => raise (.notSupported s!"{← typeText value} is not a reference type")) := by
  unfold findReference ReferenceKey.of?
  cases value <;> rfl

theorem outcome_requireCache {engine : EngineId} {world : World}
    (enabled : (world.engine engine).isDisposed = false) :
    (requireCache engine).outcome world = (.ok (), world) := by
  show ((if (world.engine engine).isDisposed = true then raise disposedCache else pure () :
    ScriptRun Unit).outcome world) = _
  rw [if_neg (by rw [enabled]; exact Bool.false_ne_true)]
  rfl

theorem outcome_requireCache_of_disposed {engine : EngineId} {world : World}
    (disposed : (world.engine engine).isDisposed = true) :
    (requireCache engine).outcome world = (.error (.raised disposedCache), world) := by
  show ((if (world.engine engine).isDisposed = true then raise disposedCache else pure () :
    ScriptRun Unit).outcome world) = _
  rw [if_pos disposed]
  rfl

theorem burials_of_reaped {world between : World}
    (reaped : between = world ∨ between = world.reap) : Burials world between := by
  rcases reaped with rfl | rfl
  · exact .refl
  · exact (reap_spec world).1

/-! ### Room -/

/-- The error of making a proxy for which the heap has no room. -/
def Bridge.heapIsFull : ScriptError := .plain "Error" "runtime heap limit exceeded"

/-- The world whose heap is held against its limit: only where there is one does it matter who has
died. -/
def World.weighed (world : World) : World :=
  if world.heapLimit.isSome then world.reap else world

theorem burials_weighed (world : World) : Burials world world.weighed := by
  unfold World.weighed
  split
  · exact (reap_spec world).1
  · exact .refl

/-- What is left of making room once the heap is weighed. -/
theorem outcome_reserve_weighed (engine : EngineId) (world : World) :
    (reserve engine).outcome world = (do
      if ← observe (·.isOverLimit) then
        discard (sweep engine)
        if ← observe (·.isOverLimit) then raise heapIsFull : ScriptRun Unit).outcome
          world.weighed := by
  unfold reserve World.weighed
  rw [outcome_bind_of_ok (outcome_observe _ _)]
  split <;> rfl

theorem outcome_reserve_of_room {engine : EngineId} {world : World}
    (room : world.weighed.isOverLimit = false) :
    (reserve engine).outcome world = (.ok (), world.weighed) := by
  rw [outcome_reserve_weighed, outcome_bind_of_ok (outcome_observe _ _), room]
  rfl

/-- One sweep makes room where there is none, or there is none for good. -/
theorem outcome_reserve_of_full (engine : EngineId) {world swept : World}
    (full : world.weighed.isOverLimit = true)
    (sweeps : ((sweep engine : ScriptRun Swept).outcome world.weighed).2 = swept) :
    (reserve engine).outcome world =
      (if swept.isOverLimit then .error (.raised heapIsFull) else .ok (), swept) := by
  have swept : (discard (sweep engine) : ScriptRun Unit).outcome world.weighed = (.ok (), swept) :=
    congrArg (Prod.mk _) sweeps
  rw [outcome_reserve_weighed, outcome_bind_of_ok (outcome_observe _ _), full, if_pos rfl,
    outcome_bind_of_ok swept, outcome_bind_of_ok (outcome_observe _ _)]
  split <;> rfl

/-! ### Runs made of steps -/

section

variable {engine : EngineId} {world : World}

theorem mem_anchors_of_held {cell : CellId} (held : cell ∈ world.held) : cell ∈ world.anchors := by
  unfold anchors
  simp only [List.mem_append]
  exact .inl (.inl (.inl (.inl (.inl held))))

/-- A disposed engine is asked for nothing. -/
theorem requireCache_steps {Result : Type} {next : Unit → ScriptRun Result}
    (steps : (world.engine engine).isDisposed = false →
      ProxySteps engine world ((next ()).outcome world).2) :
    ProxySteps engine world ((requireCache engine >>= next).outcome world).2 := by
  cases enabled : (world.engine engine).isDisposed with
  | true =>
    rw [outcome_bind_of_error (outcome_requireCache_of_disposed enabled)]
  | false =>
    rw [outcome_bind_of_ok (outcome_requireCache enabled)]
    exact steps enabled

/-- Asking for the proxy of a value in use that lives. -/
theorem findReference_steps (kept : world.IsKept engine) {value : Host.Value}
    (living : ∀ cell ∈ value.cells, world.store.isLive cell = true)
    (held : ∀ cell ∈ value.cells, cell ∈ world.held) (view : Option Host.TypeKey)
    (flags : ItemFlags) :
    ProxySteps engine world ((findReference engine value view flags).outcome world).2 := by
  rw [findReference_eq]
  refine requireCache_steps fun enabled => ?_
  cases keyed : ReferenceKey.of? value view flags with
  | none => exact .refl
  | some key =>
    obtain ⟨between, reaped, ran⟩ := outcome_findOrMake (·.references)
      (·.addReference key · value) key ⟨engine, .reference value, view, flags⟩ world
    have burials := burials_of_reaped reaped
    obtain ⟨alive, _, references, _⟩ := burials.keep kept
    dsimp only
    rw [ran]
    refine burials.steps.trans ?_
    dsimp only
    cases unfound : ProxyCache.find? (world.engine engine).cache.references between.store.isLive
      key with
    | some found => exact .single (.held _ _)
    | none =>
      obtain ⟨_, target, identity, rfl⟩ := ReferenceKey.of?_eq_some.mp keyed
      have member := mem_cells_of_identity identity
      have targetLives : between.store.isLive target = true := by
        unfold Store.isLive
        rw [alive target (mem_anchors_of_held (held target member))]
        exact living target member
      rw [← references] at unfound
      rw [← isDisposed_of_steps burials.steps kept] at enabled
      exact .tail (.single (.reference enabled keyed targetLives unfound)) (.held _ _)

/-- Asking for the proxy of a type. -/
theorem findHandle_steps (kept : world.IsKept engine) (type : Host.TypeRef) (flags : ItemFlags) :
    ProxySteps engine world ((findHandle engine type flags).outcome world).2 := by
  refine requireCache_steps fun enabled => ?_
  obtain ⟨between, reaped, ran⟩ := outcome_findOrMake (·.handles)
    (·.addHandle ⟨type, flags.identity⟩ ·) ⟨type, flags.identity⟩ ⟨engine, .type type, none, flags⟩
    world
  have burials := burials_of_reaped reaped
  obtain ⟨_, _, _, handles⟩ := burials.keep kept
  dsimp only
  rw [ran]
  refine burials.steps.trans ?_
  dsimp only
  cases unfound : ProxyCache.find? (world.engine engine).cache.handles between.store.isLive
    ⟨type, flags.identity⟩ with
  | some found => exact .single (.held _ _)
  | none =>
    rw [← handles] at unfound
    rw [← isDisposed_of_steps burials.steps kept] at enabled
    exact .tail (.single (.handle enabled unfound)) (.held _ _)

/-- Making the proxy of a value held by value. -/
theorem makeBoxed_steps (value : Host.Value) (flags : ItemFlags) :
    ProxySteps engine world ((makeBoxed engine value flags).outcome world).2 := by
  refine requireCache_steps fun _ => ?_
  rw [outcome_create]
  exact .tail (.single (.boxed _ _ _)) (.held _ _)

theorem releaseDropped_steps {Failure : Type} :
    ProxySteps engine world ((releaseDropped engine : Run Failure Nat).outcome world).2 := by
  rw [outcome_releaseDropped]
  exact .tail (reap_spec world).1.steps (.drain _)

theorem sweep_steps {Failure : Type} :
    ProxySteps engine world ((sweep engine : Run Failure Swept).outcome world).2 := by
  rw [outcome_sweep_world]
  have drained : ProxySteps engine world (world.reap.changeCache engine (·.drain.1)) :=
    .tail (reap_spec world).1.steps (.drain _)
  exact .tail (drained.trans (reap_spec _).1.steps) (.prune _)

end

/-! ### Calls -/

/-- A call on the record of an engine's proxies, or a change of the cells around it. -/
inductive CacheCall
  /-- Asks for the proxy of a value held by reference, and keeps a handle of it. -/
  | reference (value : Host.Value) (view : Option Host.TypeKey) (flags : ItemFlags)
  /-- Asks for the proxy of a type, and keeps a handle of it. -/
  | handle (type : Host.TypeRef) (flags : ItemFlags)
  /-- Makes a proxy of a value held by value, and keeps a handle of it. -/
  | boxed (value : Host.Value) (flags : ItemFlags)
  /-- Drops a handle of a cell, of a proxy or another. -/
  | drop (cell : CellId)
  /-- Takes another handle of a cell. -/
  | keep (cell : CellId)
  /-- Makes a cell that is no proxy, and keeps a handle of it. -/
  | make (contents : Cell)
  /-- Changes a cell that is no proxy. -/
  | change (cell : CellId) (contents : Cell)
  | release
  | sweep
  | dispose

namespace CacheCall

/-- Can the call be made? Only what lives can be given to it, and only the record makes proxies. -/
def isPossible (world : World) : CacheCall → Bool
  | reference value _ _ | boxed value _ => value.cells.all world.store.isLive
  | keep cell => world.store.isLive cell
  | make contents => !contents.isProxy
  | change cell contents =>
    ((world.store.get? cell).map fun former => !former.isProxy).getD false && !contents.isProxy
  | _ => true

/-- Runs with a value in use, and keeps a handle of the proxy it gives. -/
def lend (value : Host.Value) (run : ScriptRun CellId) : ScriptRun Unit := do
  let proxy ← scope (do holdCells value.cells; run)
  Run.keep proxy

/-- What a call runs. -/
def run (engine : EngineId) : CacheCall → ScriptRun Unit
  | reference value view flags => lend value (findReference engine value view flags)
  | handle type flags => discard (findHandle engine type flags)
  | boxed value flags => lend value (makeBoxed engine value flags)
  | drop cell => update fun world => { world with held := world.held.erase cell }
  | keep cell => Run.keep cell
  | make contents => discard (create contents)
  | change cell contents => modifyStore (·.put cell contents)
  | release => discard (releaseDropped engine)
  | sweep => discard (Bridge.sweep engine)
  | dispose => update (·.changeCache engine ProxyCache.dispose)

/-- The world after a call, where what nothing holds any more is gone. A call that cannot be made
changes nothing. -/
def after (engine : EngineId) (world : World) (call : CacheCall) : World :=
  if call.isPossible world then ((call.run engine).outcome world).2.reap else world

/-- The world after calls one after another. -/
def afterAll (engine : EngineId) (world : World) (calls : List CacheCall) : World :=
  calls.foldl (after engine) world

theorem lend_steps {engine : EngineId} {world : World} {value : Host.Value}
    {run : ScriptRun CellId}
    (steps : ProxySteps engine (world.holding value.cells)
      (run.outcome (world.holding value.cells)).2) :
    ProxySteps engine world ((lend value run).outcome world).2 := by
  have lent : ProxySteps engine world
      ((scope (do holdCells value.cells; run) : ScriptRun CellId).outcome world).2 :=
    .tail (.head (.held _ _) steps) (.held _ _)
  unfold lend
  rw [outcome_bind]
  rcases ran : (scope (do holdCells value.cells; run) : ScriptRun CellId).outcome world with
    ⟨halt | proxy, between⟩
  · rw [ran] at lent
    exact lent
  · rw [ran] at lent
    exact .tail lent (.held _ _)

theorem discard_outcome {Failure Result : Type} (run : Run Failure Result) (world : World) :
    ((discard run : Run Failure Unit).outcome world).2 = (run.outcome world).2 := by
  show ((run >>= fun _ => pure ()).outcome world).2 = _
  rw [outcome_bind]
  rcases run.outcome world with ⟨halt | result, between⟩ <;> rfl

/-- Every call but the last is made of steps. -/
theorem run_steps {engine : EngineId} {world : World} (kept : world.IsKept engine)
    {call : CacheCall} (lasting : call ≠ dispose) (possible : call.isPossible world = true) :
    ProxySteps engine world ((call.run engine).outcome world).2 := by
  cases call with
  | reference value view flags =>
    refine lend_steps (findReference_steps (kept.step (.held _ _)) ?_ ?_ view flags)
    · exact List.all_eq_true.mp possible
    · exact fun cell member => World.mem_held_holding.mpr (.inl member)
  | handle type flags =>
    unfold run
    rw [discard_outcome]
    exact findHandle_steps kept type flags
  | boxed value flags => exact lend_steps (makeBoxed_steps value flags)
  | drop cell => exact .single (.held _ _)
  | keep cell => exact .single (.held _ _)
  | make contents =>
    unfold run
    rw [discard_outcome, outcome_create]
    have plain : contents.isProxy = false := Bool.not_eq_true' _ ▸ possible
    exact .tail (.single (.create plain)) (.held _ _)
  | change cell contents =>
    obtain ⟨former, plain⟩ := Bool.and_eq_true_iff.mp possible
    cases found : world.store.get? cell with
    | none =>
      rw [found] at former
      cases former
    | some contents =>
      rw [found] at former
      exact .single (.put found (by simpa using former) (by simpa using plain))
  | release =>
    unfold run
    rw [discard_outcome]
    exact releaseDropped_steps
  | sweep =>
    unfold run
    rw [discard_outcome]
    exact sweep_steps
  | dispose => exact absurd rfl lasting

theorem after_steps {engine : EngineId} {world : World} (kept : world.IsKept engine)
    {call : CacheCall} (lasting : call ≠ dispose) :
    ProxySteps engine world (call.after engine world) := by
  unfold after
  split
  · next possible => exact (run_steps kept lasting possible).trans (reap_spec _).1.steps
  · exact .refl

theorem after_isSettled {engine : EngineId} {world : World} (settled : world.IsSettled)
    (call : CacheCall) : (call.after engine world).IsSettled := by
  unfold after
  split
  · exact (reap_spec _).2
  · exact settled

theorem after_dispose (engine : EngineId) (world : World) :
    after engine world dispose = (world.changeCache engine ProxyCache.dispose).reap := rfl

/-- A call keeps the invariant and the proxies, and disposing is the only call that disposes. -/
theorem after_spec {engine : EngineId} {world : World} (kept : world.IsKept engine)
    (call : CacheCall) :
    (call.after engine world).IsKept engine ∧
      world.store.Continues (call.after engine world).store ∧
        (((call.after engine world).engine engine).isDisposed = true ↔
          (world.engine engine).isDisposed = true ∨ dispose = call) := by
  by_cases last : dispose = call
  · subst last
    have burials : ProxySteps engine (world.changeCache engine ProxyCache.dispose)
        (world.changeCache engine ProxyCache.dispose).reap := (reap_spec _).1.steps
    have continues := continues_of_steps burials
    rw [after_dispose, isDisposed_of_steps burials kept.dispose, engine_changeCache kept.inside]
    exact ⟨kept.dispose.steps burials, continues, iff_of_true rfl (.inr rfl)⟩
  · have steps := after_steps kept (Ne.symm last)
    rw [isDisposed_of_steps steps kept, or_iff_left last]
    exact ⟨kept.steps steps, continues_of_steps steps, .rfl⟩

/-- The invariant after all calls. -/
theorem afterAll_spec {engine : EngineId} (calls : List CacheCall) :
    ∀ {world : World}, world.IsKept engine → world.IsSettled →
      (afterAll engine world calls).IsKept engine ∧ (afterAll engine world calls).IsSettled ∧
        world.store.Continues (afterAll engine world calls).store ∧
          (((afterAll engine world calls).engine engine).isDisposed = true ↔
            (world.engine engine).isDisposed = true ∨ dispose ∈ calls) := by
  induction calls with
  | nil =>
    intro world kept settled
    exact ⟨kept, settled, .refl _, by simp [afterAll]⟩
  | cons call rest inductionHypothesis =>
    intro world kept settled
    obtain ⟨keptAfter, continues, disposed⟩ := after_spec kept call
    obtain ⟨keptAll, settledAll, continuesAll, disposedAll⟩ :=
      inductionHypothesis keptAfter (after_isSettled settled call)
    refine ⟨keptAll, settledAll, continues.trans continuesAll, ?_⟩
    rw [List.mem_cons, ← or_assoc, ← disposed]
    exact disposedAll

end CacheCall

/-! ### What the record promises -/

namespace World

/-- The engine has not made a proxy yet, every living proxy is counted, and what nothing holds is
gone. -/
structure HasFreshRecord (world : World) (engine : EngineId) : Prop where
  inside : engine < world.engines.size
  cache : (world.engine engine).cache = {}
  proxies : ∀ cell proxy, world.store.get? cell = some (.proxy proxy) → proxy.engine ≠ engine
  counted : world.heap.proxies = world.store.proxyCount
  settled : world.IsSettled

/-- Where nothing has been made there is nothing to find and nothing to count. -/
theorem HasFreshRecord.of_no_cells {world : World} {engine : EngineId}
    (inside : engine < world.engines.size) (cache : (world.engine engine).cache = {})
    (cells : world.store.cells = #[]) (proxies : world.heap.proxies = 0) :
    world.HasFreshRecord engine := by
  have none (cell : CellId) : world.store.get? cell = none := by
    unfold Store.get?
    rw [cells]
    rfl
  refine ⟨inside, cache, ?_, ?_, ?_⟩
  · intro cell proxy found
    exact nomatch (none cell).symm.trans found
  · unfold Store.proxyCount
    rw [proxies, cells]
    rfl
  · intro cell living
    obtain ⟨_, found⟩ := Store.isLive_iff.mp living
    exact nomatch (none cell).symm.trans found

/-- The cell is a living proxy of the engine. -/
def HasProxy (world : World) (engine : EngineId) (cell : CellId) (proxy : Proxy) : Prop :=
  world.store.get? cell = some (.proxy proxy) ∧ proxy.engine = engine

/-- What the record of an engine promises until it is disposed. -/
structure ServesProxies (world : World) (engine : EngineId) : Prop where
  /-- There is one living proxy of a target, a view and the flags that matter. -/
  oneReference : ∀ first second firstProxy secondProxy key,
    world.HasProxy engine first firstProxy → world.HasProxy engine second secondProxy →
      firstProxy.referenceKey? = some key → secondProxy.referenceKey? = some key → first = second
  /-- Who asks for a proxy is given the living one. -/
  findsReference : ∀ cell proxy value view flags, world.HasProxy engine cell proxy →
    (ReferenceKey.of? value view flags).isSome = true →
      proxy.referenceKey? = ReferenceKey.of? value view flags →
        (findReference engine value view flags).outcome world =
          (.ok cell, { world with held := cell :: world.held })
  /-- Where none lives, a proxy is made of the value. -/
  makesReference : ∀ value view flags, (ReferenceKey.of? value view flags).isSome = true →
    (∀ cell proxy, world.HasProxy engine cell proxy →
      proxy.referenceKey? ≠ ReferenceKey.of? value view flags) →
        ∃ later, (findReference engine value view flags).outcome world =
            (.ok world.store.cells.size, later) ∧
          later.HasProxy engine world.store.cells.size ⟨engine, .reference value, view, flags⟩
  /-- There is one living proxy of a type and the flags that matter. -/
  oneHandle : ∀ first second firstProxy secondProxy key,
    world.HasProxy engine first firstProxy → world.HasProxy engine second secondProxy →
      firstProxy.handleKey? = some key → secondProxy.handleKey? = some key → first = second
  /-- Who asks for the proxy of a type is given the living one. -/
  findsHandle : ∀ cell proxy type flags, world.HasProxy engine cell proxy →
    proxy.handleKey? = some ⟨type, flags.identity⟩ →
      (findHandle engine type flags).outcome world =
        (.ok cell, { world with held := cell :: world.held })
  /-- A living proxy has a root of its own and leads to the value it was made of. -/
  target : ∀ cell proxy value, world.HasProxy engine cell proxy →
    proxy.target = .reference value →
      (cell, value) ∈ (world.engine engine).cache.roots ∧ world.targetOf cell = .ok value
  /-- Every root is one of a living proxy, or its ticket waits. -/
  root : ∀ cell value, (cell, value) ∈ (world.engine engine).cache.roots →
    cell ∈ (world.engine engine).cache.tickets ∨
      ∃ proxy, world.HasProxy engine cell proxy ∧ proxy.target = .reference value
  /-- Draining removes the roots whose tickets waited, counts them, and changes nothing else. -/
  release :
    let isWaiting root := (world.engine engine).cache.tickets.contains root.1
    (releaseDropped engine : ScriptRun Nat).outcome world =
      (.ok ((world.engine engine).cache.roots.countP isWaiting),
        world.changeCache engine fun cache =>
          { cache with roots := cache.roots.filter (!isWaiting ·), tickets := [] })

/-- What holds once the record is disposed: nothing is rooted, and no proxy leads anywhere. -/
structure HasNoTargets (world : World) (engine : EngineId) : Prop where
  roots : (world.engine engine).cache.roots = []
  target : ∀ cell proxy, world.HasProxy engine cell proxy → ∃ error, world.targetOf cell = .error error

variable {world : World} {engine : EngineId}

theorem HasFreshRecord.isKept (fresh : world.HasFreshRecord engine) : world.IsKept engine where
  inside := fresh.inside
  counted := fresh.counted
  serves _ := by
    rw [fresh.cache]
    have none {Key : Type} (keyOf : Proxy → Option Key) : world.store.Finds engine keyOf [] :=
      { keys := List.nodup_nil
        inside := nofun
        entry := nofun
        found := fun cell proxy _ found owned _ => absurd owned (fresh.proxies cell proxy found) }
    exact
      { references := none _
        handles := none _
        roots := nofun
        tickets := nofun
        rooted := fun cell proxy _ found owned _ => absurd owned (fresh.proxies cell proxy found) }
  emptied _ := by
    rw [fresh.cache]
    exact ⟨rfl, rfl, rfl⟩

/-- In a settled world the one that is found or made is so at once. -/
theorem IsSettled.outcome_findOrMake {Key : Type} [BEq Key] (settled : world.IsSettled)
    (entries : ProxyCache → List (Key × CellId)) (add : ProxyCache → CellId → ProxyCache)
    (key : Key) (proxy : Proxy) :
    (findOrMake entries add key proxy).outcome world =
      match ProxyCache.find? (entries (world.engine proxy.engine).cache) world.store.isLive key with
      | some found => (.ok found, { world with held := found :: world.held })
      | none =>
        (.ok world.store.cells.size,
          { (world.create (.proxy proxy)).1.changeCache proxy.engine
              (add · world.store.cells.size) with
            held := world.store.cells.size :: world.held }) := by
  obtain ⟨between, reaped, ran⟩ := ScriptBridge.outcome_findOrMake entries add key proxy world
  rw [settled.reap_eq, or_self] at reaped
  subst reaped
  exact ran

theorem IsSettled.outcome_findReference (settled : world.IsSettled)
    (enabled : (world.engine engine).isDisposed = false) {value : Host.Value}
    {view : Option Host.TypeKey} {flags : ItemFlags} {key : ReferenceKey}
    (keyed : ReferenceKey.of? value view flags = some key) :
    (findReference engine value view flags).outcome world =
      match ProxyCache.find? (world.engine engine).cache.references world.store.isLive key with
      | some found => (.ok found, { world with held := found :: world.held })
      | none =>
        (.ok world.store.cells.size,
          { (world.create (.proxy ⟨engine, .reference value, view, flags⟩)).1.changeCache engine
              (·.addReference key world.store.cells.size value) with
            held := world.store.cells.size :: world.held }) := by
  rw [findReference_eq, outcome_bind_of_ok (outcome_requireCache enabled), keyed]
  exact settled.outcome_findOrMake _ _ _ _

theorem IsSettled.outcome_releaseDropped (settled : world.IsSettled) :
    (releaseDropped engine : ScriptRun Nat).outcome world =
      (.ok (world.engine engine).cache.drain.2, world.changeCache engine (·.drain.1)) := by
  rw [ScriptBridge.outcome_releaseDropped, settled.reap_eq]

/-- The target of a rooted proxy is reached. -/
theorem targetOf_reference {cell target : CellId} {proxy : Proxy} {value : Host.Value}
    (enabled : (world.engine engine).isDisposed = false) (has : world.HasProxy engine cell proxy)
    (stands : proxy.target = .reference value) (identity : value.identity? = some target)
    (living : world.store.isLive target = true) : world.targetOf cell = .ok value := by
  obtain ⟨found, rfl⟩ := has
  unfold targetOf Store.proxy
  simp only [found, enabled, stands, identity, living, if_true, Bool.false_eq_true, if_false]

theorem targetOf_disposed {cell : CellId} {proxy : Proxy}
    (disposed : (world.engine engine).isDisposed = true) (has : world.HasProxy engine cell proxy) :
    world.targetOf cell = .error (.disposed s!"proxy {cell} belongs to a disposed engine") := by
  obtain ⟨found, rfl⟩ := has
  unfold targetOf Store.proxy
  simp only [found, disposed, if_true]

theorem length_filter_add_countP {Item : Type} (kept : Item → Bool) (items : List Item) :
    (items.filter kept).length + items.countP (fun item => !kept item) = items.length := by
  have total := List.length_eq_countP_add_countP kept (l := items)
  simp only [Bool.not_eq_true, ← Bool.not_eq_true', Bool.decide_eq_true] at total
  rw [← List.countP_eq_length_filter]
  exact total.symm

theorem drain_snd (cache : ProxyCache) :
    cache.drain.2 = cache.roots.countP fun root => cache.tickets.contains root.1 := by
  have total := length_filter_add_countP
    (fun root : CellId × Host.Value => !cache.tickets.contains root.1) cache.roots
  simp only [Bool.not_not] at total
  unfold ProxyCache.drain
  dsimp only
  omega

theorem IsKept.servesProxies (kept : world.IsKept engine) (settled : world.IsSettled)
    (enabled : (world.engine engine).isDisposed = false) : world.ServesProxies engine := by
  have serves := kept.serves enabled
  refine ⟨?_, ?_, ?_, ?_, ?_, ?_, ?_, ?_⟩
  · intro first second firstProxy secondProxy key firstHas secondHas firstKey secondKey
    exact serves.references.unique firstHas.1 firstHas.2 firstKey secondHas.1 secondHas.2 secondKey
  · intro cell proxy value view flags has isReference same
    obtain ⟨key, keyed⟩ := Option.isSome_iff_exists.mp isReference
    have found := serves.references.find?_eq_some_iff.mpr ⟨proxy, has.1, has.2, same.trans keyed⟩
    rw [settled.outcome_findReference enabled keyed, found]
  · intro value view flags isReference absent
    obtain ⟨key, keyed⟩ := Option.isSome_iff_exists.mp isReference
    have unfound : ProxyCache.find? (world.engine engine).cache.references world.store.isLive key =
        none := by
      refine Option.eq_none_iff_forall_ne_some.mpr fun cell found => ?_
      obtain ⟨proxy, living, owned, sameKey⟩ := serves.references.find?_eq_some_iff.mp found
      exact absent cell proxy ⟨living, owned⟩ (sameKey.trans keyed.symm)
    rw [settled.outcome_findReference enabled keyed, unfound]
    exact ⟨_, rfl, Store.get?_create_size _ _, rfl⟩
  · intro first second firstProxy secondProxy key firstHas secondHas firstKey secondKey
    exact serves.handles.unique firstHas.1 firstHas.2 firstKey secondHas.1 secondHas.2 secondKey
  · intro cell proxy type flags has keyed
    have found := serves.handles.find?_eq_some_iff.mpr ⟨proxy, has.1, has.2, keyed⟩
    unfold findHandle
    rw [outcome_bind_of_ok (outcome_requireCache enabled)]
    refine (settled.outcome_findOrMake _ _ _ _).trans ?_
    dsimp only
    rw [found]
  · intro cell proxy value has stands
    obtain ⟨rooted, target, identity, _, living⟩ :=
      serves.rooted cell proxy value has.1 has.2 stands
    exact ⟨rooted, targetOf_reference enabled has stands identity living⟩
  · intro cell value rooted
    refine (serves.roots cell value rooted).imp_right ?_
    rintro ⟨proxy, found, owned, stands⟩
    exact ⟨proxy, ⟨found, owned⟩, stands⟩
  · dsimp only
    rw [settled.outcome_releaseDropped, drain_snd, ← modifyEngine_cache, ← modifyEngine_cache]
    rfl

theorem IsKept.hasNoTargets (kept : world.IsKept engine)
    (disposed : (world.engine engine).isDisposed = true) : world.HasNoTargets engine where
  roots := (kept.emptied disposed).2.2
  target _ _ has := ⟨_, targetOf_disposed disposed has⟩

end World

/-! ### Whole runs -/

/-- Whatever is called on the record of an engine's proxies: as long as it is not disposed, the
living proxies are found by key and lead to their targets, and roots are those of living proxies
or wait to be released; afterwards no proxy leads anywhere. Living proxies are counted and stay as
they were made. -/
theorem record_serves_until_disposed {engine : EngineId} {start : World}
    (fresh : start.HasFreshRecord engine) (calls : List CacheCall) :
    let world := CacheCall.afterAll engine start calls
    (CacheCall.dispose ∉ calls → world.ServesProxies engine) ∧
      (CacheCall.dispose ∈ calls → world.HasNoTargets engine) ∧
        world.heap.proxies = world.store.proxyCount ∧
          ∀ earlier later, calls = earlier ++ later →
            (CacheCall.afterAll engine start earlier).store.Continues world.store := by
  obtain ⟨kept, settled, _, disposed⟩ := CacheCall.afterAll_spec calls fresh.isKept fresh.settled
  have enabled : (start.engine engine).isDisposed = false := by
    unfold Engine.isDisposed
    rw [fresh.cache]
  rw [enabled, Bool.false_eq_true, false_or] at disposed
  refine ⟨?_, ?_, kept.counted, ?_⟩
  · intro never
    exact kept.servesProxies settled (Bool.eq_false_iff.mpr (mt disposed.mp never))
  · intro once
    exact kept.hasNoTargets (disposed.mpr once)
  · rintro earlier later rfl
    obtain ⟨keptEarlier, settledEarlier, _⟩ :=
      CacheCall.afterAll_spec earlier fresh.isKept fresh.settled
    unfold CacheCall.afterAll
    rw [List.foldl_append]
    exact (CacheCall.afterAll_spec later keptEarlier settledEarlier).2.2.1

/-- The proxy of an object dies and another is made before the ticket of the first is drained: the
second leads to the object all the same. -/
theorem record_serves_object_again :
    let start : World := { engines := #[Engine.new "main" {} none] }
    let calls : List CacheCall := [.make (.object { type := 0 }),
      .reference (.object 0) none .none, .drop 0, .drop 1, .reference (.object 0) none .none, .release]
    start.HasFreshRecord 0 ∧ (CacheCall.afterAll 0 start calls).targetOf 2 = .ok (.object 0) := by
  have fresh : ({ engines := #[Engine.new "main" {} none] } : World).HasFreshRecord 0 :=
    .of_no_cells Nat.zero_lt_one rfl rfl rfl
  refine ⟨fresh, ?_⟩
  have serves := (record_serves_until_disposed fresh [.make (.object { type := 0 }),
    .reference (.object 0) none .none, .drop 0, .drop 1, .reference (.object 0) none .none,
    .release]).1 (by simp)
  exact (serves.target 2 ⟨0, .reference (.object 0), none, .none⟩ (.object 0) ⟨rfl, rfl⟩ rfl).2

end ScriptBridge
