/-
This file carries the invariant of the record of proxies through the world. One
step notes cells, changes one, buries one, adds a proxy, or drains or prunes the
record; every step keeps the invariant, and what a proxy was made with stays for
as long as it lives.
-/

import ScriptBridge.Proofs.ProxyRecord
import ScriptBridge.Proofs.Reaping

namespace ScriptBridge

namespace World

/-! ### Steps -/

/-- The world with the record of an engine's proxies changed. -/
def changeCache (world : World) (engine : EngineId) (change : ProxyCache → ProxyCache) : World :=
  world.modifyEngine engine fun state => { state with cache := change state.cache }

/-- One step in the life of an engine's proxies. -/
inductive ProxyStep (engine : EngineId) : World → World → Prop
  | held (world : World) (held : List CellId) : ProxyStep engine world { world with held }
  | bury {world : World} {cell : CellId} {contents : Cell}
      (living : world.store.get? cell = some contents) (unnamed : cell ∉ world.names) :
      ProxyStep engine world (world.bury cell)
  | create {world : World} {contents : Cell} (plain : contents.isProxy = false) :
      ProxyStep engine world (world.create contents).1
  | put {world : World} {cell : CellId} {former contents : Cell}
      (found : world.store.get? cell = some former) (formerPlain : former.isProxy = false)
      (plain : contents.isProxy = false) :
      ProxyStep engine world { world with store := world.store.put cell contents }
  | reference {world : World} {value : Host.Value} {view : Option Host.TypeKey}
      {flags : ItemFlags} {key : ReferenceKey} (enabled : (world.engine engine).isDisposed = false)
      (keyed : ReferenceKey.of? value view flags = some key)
      (living : world.store.isLive key.target = true)
      (unfound : ProxyCache.find? (world.engine engine).cache.references world.store.isLive key =
        none) :
      ProxyStep engine world
        ((world.create (.proxy ⟨engine, .reference value, view, flags⟩)).1.changeCache engine
          (·.addReference key world.store.cells.size value))
  | handle {world : World} {type : Host.TypeRef} {flags : ItemFlags}
      (enabled : (world.engine engine).isDisposed = false)
      (unfound : ProxyCache.find? (world.engine engine).cache.handles world.store.isLive
        ⟨type, flags.identity⟩ = none) :
      ProxyStep engine world
        ((world.create (.proxy ⟨engine, .type type, none, flags⟩)).1.changeCache engine
          (·.addHandle ⟨type, flags.identity⟩ world.store.cells.size))
  | boxed (world : World) (value : Host.Value) (flags : ItemFlags) :
      ProxyStep engine world (world.create (.proxy ⟨engine, .boxed value, none, flags⟩)).1
  | drain (world : World) : ProxyStep engine world (world.changeCache engine (·.drain.1))
  | prune (world : World) :
      ProxyStep engine world (world.changeCache engine (·.prune world.store.isLive |>.1))

/-- Steps one after another. -/
abbrev ProxySteps (engine : EngineId) : World → World → Prop :=
  Relation.ReflTransGen (ProxyStep engine)

/-- The invariant: proxies are counted, and the record of the engine serves the living ones until it
is disposed and empty from then on. -/
structure IsKept (world : World) (engine : EngineId) : Prop where
  inside : engine < world.engines.size
  counted : world.heap.proxies = world.store.proxyCount
  serves : (world.engine engine).isDisposed = false →
    world.store.Serves engine (world.engine engine).cache
  emptied : (world.engine engine).isDisposed = true →
    (world.engine engine).cache.references = [] ∧ (world.engine engine).cache.handles = [] ∧
      (world.engine engine).cache.roots = []

/-! ### Steps and the invariant -/

theorem engine_changeCache {world : World} {engine : EngineId} {change : ProxyCache → ProxyCache}
    (inside : engine < world.engines.size) :
    (world.changeCache engine change).engine engine =
      { world.engine engine with cache := change (world.engine engine).cache } :=
  engine_modifyEngine_self inside

theorem engine_make {world : World} {engine : EngineId} {contents : Cell}
    {change : ProxyCache → ProxyCache} (inside : engine < world.engines.size) :
    ((world.create contents).1.changeCache engine change).engine engine =
      { world.engine engine with cache := change (world.engine engine).cache } :=
  engine_modifyEngine_self inside

/-- The ticket that a cell leaves with an engine when it dies. -/
def ticketOf (engine : EngineId) (cell : CellId) : Cell → List CellId
  | .proxy proxy => if proxy.engine = engine then [cell] else []
  | _ => []

theorem mem_ticketOf {engine : EngineId} {cell other : CellId} {contents : Cell} :
    other ∈ ticketOf engine cell contents ↔
      other = cell ∧ ∃ proxy, contents = .proxy proxy ∧ proxy.engine = engine := by
  unfold ticketOf
  split
  · next proxy =>
    by_cases owned : proxy.engine = engine
    · simp [owned]
    · simp [owned]
  · next other plain => exact iff_of_false List.not_mem_nil fun ⟨_, proxy, same, _⟩ => plain proxy same

theorem engine_bury {world : World} {engine : EngineId} {cell : CellId} {contents : Cell}
    (inside : engine < world.engines.size) (living : world.store.get? cell = some contents) :
    (world.bury cell).engine engine =
      { world.engine engine with
        cache := { (world.engine engine).cache with
          tickets := (world.engine engine).cache.tickets ++ ticketOf engine cell contents } } := by
  rw [bury_of_get? living]
  cases contents with
  | proxy proxy =>
    by_cases owned : proxy.engine = engine
    · simp only [ticketOf, if_pos owned]
      subst owned
      exact engine_modifyEngine_self inside
    · simp only [ticketOf, if_neg owned, List.append_nil]
      exact engine_modifyEngine_of_ne owned
  | _ =>
    simp only [ticketOf, List.append_nil]
    rfl

theorem size_bury {world : World} {cell : CellId} {contents : Cell}
    (living : world.store.get? cell = some contents) :
    (world.bury cell).engines.size = world.engines.size := by
  rw [bury_of_get? living]
  cases contents with
  | proxy proxy => exact size_modifyEngine _ _ _
  | _ => rfl

theorem proxies_bury {world : World} {cell : CellId} {contents : Cell}
    (living : world.store.get? cell = some contents) :
    (world.bury cell).heap.proxies = world.heap.proxies - contents.isProxy.toNat := by
  rw [bury_of_get? living]
  cases contents <;> rfl

theorem proxies_create (world : World) (contents : Cell) :
    (world.create contents).1.heap.proxies = world.heap.proxies + contents.isProxy.toNat := by
  cases contents <;> rfl

/-- A value held by reference holds the cell that identifies it. -/
theorem mem_cells_of_identity {value : Host.Value} {target : CellId}
    (identity : value.identity? = some target) : target ∈ value.cells := by
  cases value <;> cases identity <;> exact List.mem_singleton.mpr rfl

/-- What a root holds is named by an anchor. -/
theorem mem_anchors_of_root {world : World} {engine : EngineId} {cell target : CellId}
    {value : Host.Value} (inside : engine < world.engines.size)
    (root : (cell, value) ∈ (world.engine engine).cache.roots)
    (identity : value.identity? = some target) : target ∈ world.anchors := by
  have held := mem_cells_of_identity identity
  have rooted : target ∈ (world.engine engine).cells := by
    unfold Engine.cells ProxyCache.rootCells
    exact List.mem_append_right _ (List.mem_flatMap.mpr ⟨_, root, held⟩)
  have member : world.engine engine ∈ world.engines.toList := by
    unfold World.engine
    rw [Array.getElem?_eq_getElem inside, Option.getD_some]
    exact Array.getElem_mem_toList inside
  unfold anchors
  exact List.mem_append_left _ (List.mem_append_right _ (List.mem_flatMap.mpr ⟨_, member, rooted⟩))

namespace IsKept

variable {world : World} {engine : EngineId}

theorem bury (kept : world.IsKept engine) {cell : CellId} {contents : Cell}
    (living : world.store.get? cell = some contents) (unnamed : cell ∉ world.names) :
    (world.bury cell).IsKept engine where
  inside := by
    rw [size_bury living]
    exact kept.inside
  counted := by
    rw [proxies_bury living, store_bury living, kept.counted, Store.proxyCount_remove living,
      Nat.add_sub_cancel]
  serves := by
    rw [engine_bury kept.inside living, store_bury living]
    intro enabled
    refine (kept.serves enabled).keepsProxies (Store.keepsProxies_remove _ _) ?_ ?_ ?_
    · intro other proxy found owned dead
      by_cases here : cell = other
      · subst here
        rw [living] at found
        exact mem_ticketOf.mpr ⟨rfl, proxy, Option.some.inj found, owned⟩
      · unfold Store.isLive at dead
        rw [Store.get?_remove_of_ne here, found] at dead
        cases dead
    · intro other member
      obtain ⟨rfl, _⟩ := mem_ticketOf.mp member
      refine ⟨?_, ?_⟩
      · rw [Store.size_remove]
        exact Store.lt_size_of_get? living
      · unfold Store.isLive
        rw [Store.get?_remove_self]
        rfl
    · intro other value target root identity alive
      have different : cell ≠ target := by
        rintro rfl
        exact unnamed (List.mem_append_left _ (mem_anchors_of_root kept.inside root identity))
      unfold Store.isLive at alive ⊢
      rw [Store.get?_remove_of_ne different]
      exact alive
  emptied := by
    rw [engine_bury kept.inside living]
    exact kept.emptied

/-- A change of cells that are no proxies. -/
theorem change (kept : world.IsKept engine) {later : World} (engines : later.engines = world.engines)
    (counted : later.heap.proxies = later.store.proxyCount)
    (keeps : world.store.KeepsProxies later.store)
    (living : ∀ cell, world.store.isLive cell = true → later.store.isLive cell = true) :
    later.IsKept engine := by
  have same : later.engine engine = world.engine engine := by
    unfold World.engine
    rw [engines]
  refine ⟨engines ▸ kept.inside, counted, ?_, ?_⟩
  · rw [same]
    intro enabled
    have survive : ∀ cell proxy, world.store.get? cell = some (.proxy proxy) →
        proxy.engine = engine → later.store.isLive cell = false → cell ∈ ([] : List CellId) := by
      intro cell proxy found _ dead
      rw [living cell (Store.isLive_iff.mpr ⟨_, found⟩)] at dead
      cases dead
    have serves := (kept.serves enabled).keepsProxies keeps survive (fun _ member => nomatch member)
      fun _ _ target _ _ alive => living target alive
    rwa [List.append_nil] at serves
  · rw [same]
    exact kept.emptied

/-- A change of the record alone. -/
theorem record (kept : world.IsKept engine) {change : ProxyCache → ProxyCache}
    (disposed : (change (world.engine engine).cache).disposed = (world.engine engine).isDisposed)
    (serves : world.store.Serves engine (world.engine engine).cache →
      world.store.Serves engine (change (world.engine engine).cache))
    (emptied : (world.engine engine).isDisposed = true →
      (change (world.engine engine).cache).references = [] ∧
        (change (world.engine engine).cache).handles = [] ∧
          (change (world.engine engine).cache).roots = []) :
    (world.changeCache engine change).IsKept engine where
  inside := by
    unfold changeCache
    rw [size_modifyEngine]
    exact kept.inside
  counted := kept.counted
  serves := by
    rw [engine_changeCache kept.inside]
    intro enabled
    exact serves (kept.serves (disposed ▸ enabled))
  emptied := by
    rw [engine_changeCache kept.inside]
    intro gone
    exact emptied (disposed ▸ gone)

/-- The world with a new proxy and the record that goes with it. -/
theorem make (kept : world.IsKept engine) (enabled : (world.engine engine).isDisposed = false)
    {proxy : Proxy} {change : ProxyCache → ProxyCache}
    (disposed : (change (world.engine engine).cache).disposed = false)
    (serves : world.store.Serves engine (world.engine engine).cache →
      (world.store.create (.proxy proxy)).1.Serves engine (change (world.engine engine).cache)) :
    ((world.create (.proxy proxy)).1.changeCache engine change).IsKept engine where
  inside := by
    unfold changeCache
    rw [size_modifyEngine]
    exact kept.inside
  counted := by
    show (world.create (.proxy proxy)).1.heap.proxies = _
    rw [proxies_create, kept.counted]
    exact (Store.proxyCount_create _ _).symm
  serves := by
    rw [engine_make kept.inside]
    intro _
    exact serves (kept.serves enabled)
  emptied := by
    rw [engine_make kept.inside]
    intro gone
    exact absurd (disposed.symm.trans gone) nofun

/-- Every step keeps the invariant. -/
theorem step (kept : world.IsKept engine) {later : World} (step : ProxyStep engine world later) :
    later.IsKept engine := by
  cases step with
  | held held => exact ⟨kept.inside, kept.counted, kept.serves, kept.emptied⟩
  | bury living unnamed => exact kept.bury living unnamed
  | @create contents plain =>
    refine kept.change rfl ?_ (Store.keepsProxies_create plain) fun _ => Store.isLive_create
    rw [proxies_create, kept.counted]
    exact (Store.proxyCount_create _ _).symm
  | @put cell former contents found formerPlain plain =>
    refine kept.change rfl ?_ (Store.keepsProxies_put found formerPlain plain) ?_
    · rw [Store.proxyCount_put found (plain.trans formerPlain.symm)]
      exact kept.counted
    · intro other living
      exact Store.isLive_put living
  | reference enabled keyed living unfound =>
    exact kept.make enabled enabled fun serves => serves.addReference keyed living unfound
  | handle enabled unfound =>
    exact kept.make enabled enabled fun serves =>
      serves.create (by rintro - _ ⟨⟩) (serves.handles.put rfl rfl unfound)
  | boxed value flags =>
    refine ⟨kept.inside, ?_, ?_, kept.emptied⟩
    · rw [proxies_create, kept.counted]
      exact (Store.proxyCount_create _ _).symm
    · intro enabled
      have serves := kept.serves enabled
      exact serves.create (by rintro - _ ⟨⟩) (serves.handles.create fun _ => rfl)
  | drain =>
    refine kept.record rfl Store.Serves.drain fun gone => ?_
    obtain ⟨references, handles, roots⟩ := kept.emptied gone
    refine ⟨references, handles, ?_⟩
    unfold ProxyCache.drain
    dsimp only
    rw [roots]
    rfl
  | prune =>
    refine kept.record rfl Store.Serves.prune fun gone => ?_
    obtain ⟨references, handles, roots⟩ := kept.emptied gone
    unfold ProxyCache.prune
    dsimp only
    rw [references, handles, roots]
    exact ⟨rfl, rfl, rfl⟩

theorem steps (kept : world.IsKept engine) {later : World} (steps : ProxySteps engine world later) :
    later.IsKept engine := by
  induction steps with
  | refl => exact kept
  | tail _ last inductionHypothesis => exact inductionHypothesis.step last

/-- Disposing empties the record for good. -/
theorem dispose (kept : world.IsKept engine) :
    (world.changeCache engine ProxyCache.dispose).IsKept engine := by
  have state : (world.changeCache engine ProxyCache.dispose).engine engine = _ :=
    engine_changeCache kept.inside
  refine ⟨?_, kept.counted, ?_, ?_⟩
  · unfold changeCache
    rw [size_modifyEngine]
    exact kept.inside
  · rw [state]
    exact nofun
  · rw [state]
    exact fun _ => ⟨rfl, rfl, rfl⟩

/-! ### Other engines -/

theorem changeCache_of_ne (kept : world.IsKept engine) {other : EngineId}
    (different : other ≠ engine) (change : ProxyCache → ProxyCache) :
    (world.changeCache other change).IsKept engine := by
  have same : (world.changeCache other change).engine engine = world.engine engine :=
    engine_modifyEngine_of_ne different
  refine ⟨?_, kept.counted, same ▸ kept.serves, same ▸ kept.emptied⟩
  unfold changeCache
  rw [size_modifyEngine]
  exact kept.inside

theorem create_of_ne (kept : world.IsKept engine) {proxy : Proxy}
    (different : proxy.engine ≠ engine) : (world.create (.proxy proxy)).1.IsKept engine := by
  refine ⟨kept.inside, ?_, fun enabled => ?_, kept.emptied⟩
  · rw [proxies_create, kept.counted]
    exact (Store.proxyCount_create _ _).symm
  · have serves := kept.serves enabled
    exact serves.create (fun owned => absurd owned different)
      (serves.handles.create fun owned => absurd owned different)

/-- The steps of another engine's proxies keep the invariant as well. -/
theorem step_of_ne (kept : world.IsKept engine) {other : EngineId} (different : other ≠ engine)
    {later : World} (step : ProxyStep other world later) : later.IsKept engine := by
  cases step with
  | held held => exact kept.step (.held _ held)
  | bury living unnamed => exact kept.step (.bury living unnamed)
  | create plain => exact kept.step (.create plain)
  | put found formerPlain plain => exact kept.step (.put found formerPlain plain)
  | reference | handle => exact (kept.create_of_ne different).changeCache_of_ne different _
  | boxed => exact kept.create_of_ne different
  | drain | prune => exact kept.changeCache_of_ne different _

theorem steps_of_ne (kept : world.IsKept engine) {other : EngineId} (different : other ≠ engine)
    {later : World} (steps : ProxySteps other world later) : later.IsKept engine := by
  induction steps with
  | refl => exact kept
  | tail _ last inductionHypothesis => exact inductionHypothesis.step_of_ne different last

end IsKept

/-! ### What steps leave as it is -/

theorem Burial.step {engine : EngineId} {world later : World} (burial : Burial world later) :
    ProxyStep engine world later := by
  cases burial with
  | bury living unnamed => exact .bury living unnamed

theorem Burials.steps {engine : EngineId} {world later : World} (burials : Burials world later) :
    ProxySteps engine world later :=
  Relation.ReflTransGen.mono (fun _ _ burial => Burial.step burial) world later burials

theorem ProxyStep.continues {engine : EngineId} {world later : World}
    (step : ProxyStep engine world later) : world.store.Continues later.store := by
  cases step with
  | held | drain | prune => exact .refl _
  | bury living unnamed =>
    rw [store_bury living]
    exact (Store.keepsProxies_remove _ _).toContinues
  | create | reference | handle | boxed => exact Store.continues_create _ _
  | put found formerPlain plain => exact (Store.keepsProxies_put found formerPlain plain).toContinues

theorem continues_of_steps {engine : EngineId} {world later : World}
    (steps : ProxySteps engine world later) : world.store.Continues later.store := by
  induction steps with
  | refl => exact .refl _
  | tail _ last inductionHypothesis => exact inductionHypothesis.trans last.continues

/-- No step disposes an engine, and none undoes it. -/
theorem ProxyStep.isDisposed {engine : EngineId} {world later : World}
    (step : ProxyStep engine world later) (inside : engine < world.engines.size) :
    (later.engine engine).isDisposed = (world.engine engine).isDisposed := by
  cases step with
  | held | create | put | boxed => rfl
  | bury living unnamed =>
    rw [engine_bury inside living]
    rfl
  | drain | prune =>
    rw [engine_changeCache inside]
    rfl
  | reference | handle =>
    rw [engine_make inside]
    rfl

theorem isDisposed_of_steps {engine : EngineId} {world later : World}
    (steps : ProxySteps engine world later) (kept : world.IsKept engine) :
    (later.engine engine).isDisposed = (world.engine engine).isDisposed := by
  induction steps with
  | refl => rfl
  | tail before last inductionHypothesis =>
    rw [last.isDisposed (kept.steps before).inside, inductionHypothesis]

/-- While cells are buried, what an anchor names lives on, and the entries of the record stay. -/
theorem Burials.keep {engine : EngineId} {world later : World} (burials : Burials world later)
    (kept : world.IsKept engine) :
    (∀ cell ∈ world.anchors, later.store.get? cell = world.store.get? cell) ∧
      later.anchors = world.anchors ∧
        (later.engine engine).cache.references = (world.engine engine).cache.references ∧
          (later.engine engine).cache.handles = (world.engine engine).cache.handles := by
  induction burials with
  | refl => exact ⟨fun _ _ => rfl, rfl, rfl, rfl⟩
  | tail before last inductionHypothesis =>
    obtain ⟨alive, anchors, references, handles⟩ := inductionHypothesis
    obtain ⟨living, unnamed⟩ := last
    have inside := (kept.steps (Burials.steps before)).inside
    rw [engine_bury inside living, anchors_bury living, store_bury living]
    refine ⟨?_, anchors, references, handles⟩
    intro cell anchored
    rw [← alive cell anchored]
    refine Store.get?_remove_of_ne ?_
    rintro rfl
    exact unnamed (List.mem_append_left _ (anchors ▸ anchored))

end World

end ScriptBridge
