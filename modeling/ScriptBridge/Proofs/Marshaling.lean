/-
This file follows the making of proxies while values are marshaled. What is in use,
and everything that it leads to, stays as it is while dead cells are buried and
proxies are made; the record of proxies stays in order, and every proxy stands for a
value of the kind that its cell holds. So whoever asks for the proxy of a value is
given one that stands for that value, or the engine is disposed or the heap is full.
-/

import ScriptBridge.Bridge.ToScript
import ScriptBridge.Proofs.ProxyLives

namespace ScriptBridge

open Run World Bridge

/-! ### What is led to -/

/-- The cells that some cells lead to, over what cells keep alive. -/
inductive Store.Reaches (store : Store) (roots : List CellId) : CellId → Prop
  | root {cell : CellId} (member : cell ∈ roots) : store.Reaches roots cell
  | part {owner cell : CellId} {contents : Cell} (reached : store.Reaches roots owner)
      (found : store.get? owner = some contents) (named : cell ∈ contents.cells) :
      store.Reaches roots cell

namespace Store

variable {store later : Store} {roots more : List CellId} {cell : CellId}

theorem Reaches.mono (reached : store.Reaches roots cell) (wider : ∀ cell ∈ roots, cell ∈ more) :
    store.Reaches more cell := by
  induction reached with
  | root member => exact .root (wider _ member)
  | part _ found named inductionHypothesis => exact .part inductionHypothesis found named

/-- What is led to by cells that are led to is led to. -/
theorem Reaches.trans (reached : store.Reaches more cell)
    (inside : ∀ cell ∈ more, store.Reaches roots cell) : store.Reaches roots cell := by
  induction reached with
  | root member => exact inside _ member
  | part _ found named inductionHypothesis => exact .part inductionHypothesis found named

/-- Where everything that is led to stays as it is, it is still led to. -/
theorem Reaches.stays (reached : store.Reaches roots cell)
    (same : ∀ {cell contents}, store.Reaches roots cell → store.get? cell = some contents →
      later.get? cell = some contents) : later.Reaches roots cell := by
  induction reached with
  | root member => exact .root member
  | part owner found named inductionHypothesis =>
    exact .part inductionHypothesis (same owner found) named

end Store

/-- Does a cell hold what a value by its variant refers to? -/
def Cell.Suits : Cell → Host.Value → Prop
  | .object _, .object _ | .connection _, .object _ | .hostArray _ _, .array _ | .box _ _, .box _
  | .delegate _ _, .delegate _ | .buffer _, .buffer _ => True
  | _, _ => False

/-- Values of one cell that suit it are the same. -/
theorem Cell.Suits.unique {contents : Cell} {left right : Host.Value} {target : CellId}
    (first : contents.Suits left) (second : contents.Suits right)
    (leftIdentity : left.identity? = some target) (rightIdentity : right.identity? = some target) :
    left = right := by
  cases contents <;> cases left <;> first
    | exact first.elim
    | cases right <;> first
      | exact second.elim
      | (cases leftIdentity; cases rightIdentity; rfl)

namespace World

/-- Is the cell in use at the moment, or led to by one that is? -/
def InUse (world : World) (cell : CellId) : Prop := world.store.Reaches world.held cell

theorem InUse.mem_names {world : World} {cell : CellId} (used : world.InUse cell) :
    cell ∈ world.names := by
  unfold names
  cases used with
  | root member => exact List.mem_append_left _ (mem_anchors_of_held member)
  | @part owner _ contents reached found named =>
    refine List.mem_append_right _ ?_
    unfold Store.namings
    rw [Store.cells_toList_of_get? found, List.flatMap_append, List.flatMap_cons]
    exact List.mem_append_right _ (List.mem_append_left _ named)

/-! ### Sound worlds -/

/-- The record of an engine is in order, and until the engine is disposed each of its proxies stands
for a value of the kind that its cell holds. -/
structure IsSound (world : World) (engine : EngineId) : Prop where
  kept : world.IsKept engine
  suited : (world.engine engine).isDisposed = false → ∀ {cell target : CellId} {proxy : Proxy}
    {value : Host.Value} {contents : Cell}, world.store.get? cell = some (.proxy proxy) →
    proxy.engine = engine → proxy.target = .reference value → value.identity? = some target →
    world.store.get? target = some contents → contents.Suits value

/-- A world goes on to another: what was in use is so still and as it was, no cell has come to hold
anything else, and the record has stayed sound. -/
structure Goes (engine : EngineId) (before after : World) : Prop where
  size_le : before.store.cells.size ≤ after.store.cells.size
  stays : ∀ {cell : CellId} {contents : Cell}, cell < before.store.cells.size →
    after.store.get? cell = some contents → before.store.get? cell = some contents
  types : after.store.types = before.store.types
  options : (after.engine engine).options = (before.engine engine).options
  disposed : (after.engine engine).isDisposed = (before.engine engine).isDisposed
  held : ∀ cell ∈ before.held, cell ∈ after.held
  used : ∀ {cell contents}, before.InUse cell → before.store.get? cell = some contents →
    after.store.get? cell = some contents
  sound : before.IsSound engine → after.IsSound engine

namespace Goes

variable {engine : EngineId} {before between after : World}

theorem inUse (goes : Goes engine before after) {cell : CellId} (used : before.InUse cell) :
    after.InUse cell :=
  (used.stays goes.used).mono goes.held

theorem refl (world : World) : Goes engine world world where
  size_le := Nat.le_refl _
  stays _ found := found
  types := rfl
  options := rfl
  disposed := rfl
  held _ member := member
  used _ found := found
  sound sound := sound

theorem trans (first : Goes engine before between) (second : Goes engine between after) :
    Goes engine before after where
  size_le := Nat.le_trans first.size_le second.size_le
  stays inside found :=
    first.stays inside (second.stays (Nat.lt_of_lt_of_le inside first.size_le) found)
  types := second.types.trans first.types
  options := second.options.trans first.options
  disposed := second.disposed.trans first.disposed
  held cell member := second.held cell (first.held cell member)
  used used found := second.used (first.inUse used) (first.used used found)
  sound sound := second.sound (first.sound sound)

/-- A scope gives back what was in use before. -/
theorem scope (goes : Goes engine before after) :
    Goes engine before { after with held := before.held } where
  size_le := goes.size_le
  stays := goes.stays
  types := goes.types
  options := goes.options
  disposed := goes.disposed
  held _ member := member
  used := goes.used
  sound sound := ⟨(goes.sound sound).kept.step (.held after before.held), (goes.sound sound).suited⟩

/-- More cells come into use. -/
theorem holdMore (world : World) {held : List CellId} (more : ∀ cell ∈ world.held, cell ∈ held) :
    Goes engine world { world with held } where
  size_le := Nat.le_refl _
  stays _ found := found
  types := rfl
  options := rfl
  disposed := rfl
  held := more
  used _ found := found
  sound sound := ⟨sound.kept.step (.held world _), sound.suited⟩

theorem hold (world : World) (cells : List CellId) : Goes engine world (world.holding cells) :=
  .holdMore world fun _ member => World.mem_held_holding.mpr (.inr member)

theorem keep (world : World) (cell : CellId) :
    Goes engine world { world with held := cell :: world.held } :=
  .holdMore world fun _ member => List.mem_cons_of_mem cell member

theorem collections (world : World) (collections : Nat) :
    Goes engine world { world with collections } where
  size_le := Nat.le_refl _
  stays _ found := found
  types := rfl
  options := rfl
  disposed := rfl
  held _ member := member
  used _ found := found
  sound sound := ⟨⟨sound.kept.inside, sound.kept.counted, sound.kept.serves, sound.kept.emptied⟩,
    sound.suited⟩

/-- A dead cell is buried. -/
theorem bury {world : World} {cell : CellId} {contents : Cell}
    (living : world.store.get? cell = some contents) (unnamed : cell ∉ world.names)
    (inside : engine < world.engines.size) : Goes engine world (world.bury cell) where
  size_le := by
    have same : (world.bury cell).store.cells.size = world.store.cells.size := by
      rw [store_bury living, Store.size_remove]
    exact Nat.le_of_eq same.symm
  stays _ found := by
    rw [store_bury living] at found
    exact Store.get?_of_get?_remove found
  types := by
    rw [store_bury living]
    rfl
  options := by rw [engine_bury inside living]
  disposed := by
    rw [engine_bury inside living]
    rfl
  held other member := by
    rw [bury_of_get? living]
    cases contents <;> exact member
  used {other _} used found := by
    have different : cell ≠ other := by
      rintro rfl
      exact unnamed used.mem_names
    rw [store_bury living, Store.get?_remove_of_ne different]
    exact found
  sound sound := by
    refine ⟨sound.kept.bury living unnamed, ?_⟩
    rw [engine_bury inside living, store_bury living]
    intro enabled other target proxy value contents found owned stands identity there
    exact sound.suited enabled (Store.get?_of_get?_remove found) owned stands identity
      (Store.get?_of_get?_remove there)

theorem burials {world later : World} (burials : Burials world later)
    (inside : engine < world.engines.size) :
    Goes engine world later ∧ engine < later.engines.size := by
  induction burials with
  | refl => exact ⟨refl world, inside⟩
  | tail _ last inductionHypothesis =>
    obtain ⟨goes, insideStill⟩ := inductionHypothesis
    obtain @⟨cell, contents, living, unnamed⟩ := last
    exact ⟨goes.trans (bury living unnamed insideStill), size_bury living ▸ insideStill⟩

/-- The record alone changes, by a step that keeps it in order. -/
theorem changeCache {world : World} {change : ProxyCache → ProxyCache}
    (inside : engine < world.engines.size)
    (disposed : (change (world.engine engine).cache).disposed = (world.engine engine).isDisposed)
    (step : ProxyStep engine world (world.changeCache engine change)) :
    Goes engine world (world.changeCache engine change) where
  size_le := Nat.le_refl _
  stays _ found := found
  types := rfl
  options := by rw [engine_changeCache inside]
  disposed := by
    rw [engine_changeCache inside]
    exact disposed
  held _ member := member
  used _ found := found
  sound sound := by
    refine ⟨sound.kept.step step, ?_⟩
    rw [engine_changeCache inside]
    intro enabled
    exact sound.suited (disposed.symm.trans enabled)

/-- A cell is made. If it is a proxy of a reference, what it stands for lives and suits its cell. -/
theorem create {contents : Cell} (store : after.store = (before.store.create contents).1)
    (held : ∀ cell ∈ before.held, cell ∈ after.held)
    (options : (after.engine engine).options = (before.engine engine).options)
    (disposed : (after.engine engine).isDisposed = (before.engine engine).isDisposed)
    (kept : before.IsKept engine → after.IsKept engine)
    (suits : ∀ {proxy : Proxy} {value : Host.Value} {target : CellId}, contents = .proxy proxy →
      proxy.target = .reference value → value.identity? = some target →
      ∃ there, before.store.get? target = some there ∧ there.Suits value) :
    Goes engine before after where
  size_le := by
    rw [store, Store.size_create]
    exact Nat.le_succ _
  stays inside found := by
    rw [store, Store.get?_create_of_lt inside] at found
    exact found
  types := by
    rw [store]
    rfl
  options := options
  disposed := disposed
  held := held
  used _ found := by
    rw [store, Store.get?_create_of_lt (Store.lt_size_of_get? found)]
    exact found
  sound sound := by
    refine ⟨kept sound.kept, ?_⟩
    rw [disposed, store]
    intro enabled cell target proxy value there found owned stands identity living
    obtain ⟨contents, before, suits⟩ : ∃ contents, before.store.get? target = some contents ∧
        contents.Suits value := by
      rcases Store.get?_create found with old | ⟨-, made⟩
      · obtain ⟨-, other, known, -, alive⟩ :=
          (sound.kept.serves enabled).rooted cell proxy value old owned stands
        rw [identity] at known
        cases known
        obtain ⟨contents, before⟩ := Store.isLive_iff.mp alive
        exact ⟨contents, before, sound.suited enabled old owned stands identity before⟩
      · exact suits made stands identity
    rw [Store.get?_create_of_lt (Store.lt_size_of_get? before), before] at living
    cases living
    exact suits

end Goes

end World

/-- The value that a proxy stands for. -/
def ProxyTarget.value : ProxyTarget → Host.Value
  | .reference value | .boxed value => value
  | .type mentioned => .type mentioned

/-- Is the cell a proxy of the engine that stands for the value? -/
def World.Stands (world : World) (engine : EngineId) (cell : CellId) (value : Host.Value) : Prop :=
  (world.engine engine).isDisposed = false ∧ ∃ proxy, world.store.get? cell = some (.proxy proxy) ∧
    proxy.engine = engine ∧ proxy.target.value = value

/-- Where the record is in order a proxy of the engine leads to what it stands for. -/
theorem World.IsKept.targetOf {world : World} {engine : EngineId} {cell : CellId} {proxy : Proxy}
    (kept : world.IsKept engine) (enabled : (world.engine engine).isDisposed = false)
    (has : world.HasProxy engine cell proxy) : world.targetOf cell = .ok proxy.target.value := by
  obtain ⟨found, owned⟩ := has
  cases target : proxy.target with
  | reference value =>
    obtain ⟨-, other, identity, -, living⟩ :=
      (kept.serves enabled).rooted cell proxy value found owned target
    exact targetOf_reference enabled ⟨found, owned⟩ target identity living
  | boxed value | type type =>
    unfold World.targetOf Store.proxy
    simp only [found, owned, enabled, target, Bool.false_eq_true, if_false, ProxyTarget.value]

/-- In a sound world a proxy leads to what it stands for. -/
theorem World.Stands.targetOf {world : World} {engine : EngineId} {cell : CellId}
    {value : Host.Value} (stands : world.Stands engine cell value) (sound : world.IsSound engine) :
    world.targetOf cell = .ok value := by
  obtain ⟨enabled, proxy, found, owned, rfl⟩ := stands
  exact sound.kept.targetOf enabled ⟨found, owned⟩

/-! ### Runs that give proxies -/

/-- Does the error say that the engine is disposed or that the heap is full? -/
def ScriptError.IsRefusal (error : ScriptError) : Prop :=
  error = disposedCache ∨ error = .plain "Error" "runtime heap limit exceeded"

/-- In a world, the run leaves what is in use as it is and has a value of which something holds, or
it is refused. -/
def Run.Gives {Result : Type} (engine : EngineId) (run : ScriptRun Result) (world : World)
    (holds : Result → World → Prop) : Prop :=
  Goes engine world (run.outcome world).2 ∧
    match (run.outcome world).1 with
    | .ok result => holds result (run.outcome world).2
    | .error (.raised error) => error.IsRefusal
    | .error .exhausted => False

namespace Run.Gives

variable {engine : EngineId} {Result Next : Type} {run : ScriptRun Result}
  {next : Result → ScriptRun Next} {world : World} {holds : Result → World → Prop}
  {goal : Next → World → Prop}

theorem of_outcome {result : Result} {after : World}
    (ran : run.outcome world = (.ok result, after)) (goes : Goes engine world after)
    (holding : holds result after) : run.Gives engine world holds := by
  unfold Run.Gives
  rw [ran]
  exact ⟨goes, holding⟩

theorem of_refused {error : ScriptError} {after : World}
    (ran : run.outcome world = (.error (.raised error), after)) (goes : Goes engine world after)
    (refused : error.IsRefusal) : run.Gives engine world holds := by
  unfold Run.Gives
  rw [ran]
  exact ⟨goes, refused⟩

theorem pure {result : Result} (holding : holds result world) :
    (Pure.pure result : ScriptRun Result).Gives engine world holds :=
  of_outcome (outcome_pure result world) (.refl world) holding

theorem imp {other : Result → World → Prop} (gives : run.Gives engine world holds)
    (implies : ∀ result after, Goes engine world after → holds result after → other result after) :
    run.Gives engine world other := by
  obtain ⟨goes, holding⟩ := gives
  refine ⟨goes, ?_⟩
  rcases ran : run.outcome world with ⟨(error | _) | result, after⟩
  · rw [ran] at holding
    exact holding
  · rw [ran] at holding
    exact holding
  · rw [ran] at goes holding
    exact implies result after goes holding

/-- A run made of two gives what the second gives after the first. -/
theorem bind (first : run.Gives engine world holds)
    (second : ∀ result after, Goes engine world after → holds result after →
      (next result).Gives engine after goal) :
    (run >>= next).Gives engine world goal := by
  obtain ⟨goes, holding⟩ := first
  rcases ran : run.outcome world with ⟨(error | _) | result, after⟩
  · rw [ran] at goes holding
    exact of_refused (outcome_bind_of_error ran) goes holding
  · rw [ran] at holding
    exact holding.elim
  · rw [ran] at goes holding
    obtain ⟨goesOn, given⟩ := second result after goes holding
    unfold Run.Gives
    rw [outcome_bind_of_ok ran]
    exact ⟨goes.trans goesOn, given⟩

/-- What is read is what the world has. -/
theorem bind_of_outcome {result : Result} (ran : run.outcome world = (.ok result, world))
    (second : (next result).Gives engine world goal) : (run >>= next).Gives engine world goal := by
  unfold Run.Gives
  rw [outcome_bind_of_ok ran]
  exact second

/-- What the value holds is in use from now on. -/
theorem held [HoldsCells Result] (gives : run.Gives engine world holds)
    (steady : ∀ result after held, holds result after → holds result { after with held }) :
    (Run.held run).Gives engine world fun result after =>
      holds result after ∧ ∀ cell ∈ HoldsCells.cells result, cell ∈ after.held := by
  refine gives.bind fun result after goes holding => ?_
  refine of_outcome (outcome_hold result after) (.hold after _) ⟨steady _ _ _ holding, ?_⟩
  exact fun cell member => World.mem_held_holding.mpr (.inl member)

/-- Within a scope, where cells are in use besides. -/
theorem scope (gives : run.Gives engine world holds)
    (steady : ∀ result after held, holds result after → holds result { after with held }) :
    (Run.scope run).Gives engine world holds := by
  obtain ⟨goes, holding⟩ := gives
  unfold Run.Gives
  rw [outcome_scope]
  refine ⟨goes.scope, ?_⟩
  rcases ran : run.outcome world with ⟨(error | _) | result, after⟩
  · rw [ran] at holding
    exact holding
  · rw [ran] at holding
    exact holding
  · rw [ran] at holding
    exact steady result after _ holding

end Run.Gives

namespace Bridge

variable {engine : EngineId} {world : World}

/-! ### Room -/

theorem sweep_goes (inside : engine < world.engines.size) :
    Goes engine world ((sweep engine : ScriptRun Swept).outcome world).2 := by
  rw [outcome_sweep_world]
  have reaped := Goes.burials (reap_spec world).1 inside
  have drained : Goes engine world.reap (world.reap.changeCache engine (·.drain.1)) :=
    .changeCache reaped.2 rfl (.drain _)
  have insideDrained : engine < (world.reap.changeCache engine (·.drain.1)).engines.size := by
    unfold changeCache
    rw [size_modifyEngine]
    exact reaped.2
  have reapedAgain := Goes.burials (reap_spec _).1 insideDrained
  refine reaped.1.trans (drained.trans (reapedAgain.1.trans ?_))
  exact .changeCache reapedAgain.2 rfl (.prune _)

/-- There is room in the heap, or the run is refused. -/
theorem reserve_gives (sound : world.IsSound engine) :
    (reserve engine).Gives engine world fun _ _ => True := by
  obtain ⟨weighed, inside⟩ := Goes.burials (burials_weighed world) sound.kept.inside
  cases limit : world.weighed.isOverLimit with
  | false => exact .of_outcome (outcome_reserve_of_room limit) weighed trivial
  | true =>
    have swept := weighed.trans (sweep_goes inside)
    have ended := outcome_reserve_of_full engine limit rfl
    split at ended
    · exact .of_refused ended swept (.inr rfl)
    · exact .of_outcome ended swept trivial

/-! ### Proxies -/

/-- A disposed engine refuses; any other goes on as it was. -/
theorem requireCache_gives {Result : Type} {next : Unit → ScriptRun Result}
    {holds : Result → World → Prop} (gives : (world.engine engine).isDisposed = false →
      (next ()).Gives engine world holds) :
    (requireCache engine >>= next).Gives engine world holds := by
  cases enabled : (world.engine engine).isDisposed with
  | true =>
    exact .of_refused (outcome_bind_of_error (outcome_requireCache_of_disposed enabled)) (.refl _)
      (.inl rfl)
  | false => exact .bind_of_outcome (outcome_requireCache enabled) (gives enabled)

/-- The proxy that is found stands for the value, and so does one that is made. -/
theorem findOrMake_gives {Key : Type} [BEq Key] [LawfulBEq Key] (keyOf : Proxy → Option Key)
    {entries : ProxyCache → List (Key × CellId)} {add : ProxyCache → CellId → ProxyCache}
    {key : Key} {proxy : Proxy} {value : Host.Value} (sound : world.IsSound engine)
    (enabled : (world.engine engine).isDisposed = false) (owned : proxy.engine = engine)
    (stands : proxy.target.value = value)
    (finds : ∀ {between}, Burials world between → between.IsSound engine →
      (between.engine engine).isDisposed = false →
        between.store.Finds engine keyOf (entries (world.engine engine).cache))
    (unique : ∀ {between cell other}, Goes engine world between →
      between.store.get? cell = some (.proxy other) → other.engine = engine →
        keyOf other = some key → other.target.value = value)
    (makes : ∀ {between}, Burials world between → Goes engine world between →
      ProxyCache.find? (entries (world.engine engine).cache) between.store.isLive key = none →
        Goes engine between ((between.create (.proxy proxy)).1.changeCache engine
          (add · between.store.cells.size))) :
    (findOrMake entries add key proxy).Gives engine world fun cell after =>
      after.Stands engine cell value := by
  obtain ⟨between, reaped, ran⟩ := outcome_findOrMake entries add key proxy world
  have burials := burials_of_reaped reaped
  have goes := (Goes.burials burials sound.kept.inside).1
  have enabledStill : (between.engine engine).isDisposed = false := goes.disposed.trans enabled
  rw [owned] at ran
  split at ran
  next cell found =>
    obtain ⟨other, living, otherOwned, keyed⟩ :=
      (finds burials (goes.sound sound) enabledStill).find?_eq_some_iff.mp found
    exact .of_outcome ran (goes.trans (.keep between cell))
      ⟨enabledStill, other, living, otherOwned, unique goes living otherOwned keyed⟩
  next unfound =>
    have made := makes burials goes unfound
    refine .of_outcome ran (goes.trans (made.trans (.keep _ between.store.cells.size))) ?_
    exact ⟨made.disposed.trans enabledStill, proxy, Store.get?_create_size _ _, owned, stands⟩

/-- Whoever asks for the proxy of a value that is in use and lives is given one. -/
theorem findReference_gives (sound : world.IsSound engine) {value : Host.Value} {target : CellId}
    {contents : Cell} (identity : value.identity? = some target) (weak : value.hasWeakForm = true)
    (used : world.InUse target) (found : world.store.get? target = some contents)
    (suits : contents.Suits value) (view : Option Host.TypeKey) (flags : ItemFlags) :
    (findReference engine value view flags).Gives engine world fun cell after =>
      after.Stands engine cell value := by
  rw [findReference_eq]
  refine requireCache_gives fun enabled => ?_
  have keyed : ReferenceKey.of? value view flags = some ⟨target, view, flags.identity⟩ :=
    ReferenceKey.of?_eq_some.mpr ⟨weak, target, identity, rfl⟩
  rw [keyed]
  have steady {between : World} (burials : Burials world between) :
      (between.engine engine).cache.references = (world.engine engine).cache.references :=
    (burials.keep sound.kept).2.2.1
  refine findOrMake_gives Proxy.referenceKey? sound enabled rfl rfl ?_ ?_ ?_
  · intro between burials soundStill enabledStill
    rw [← steady burials]
    exact (soundStill.kept.serves enabledStill).references
  · intro between cell other goes living owned sameKey
    cases otherTarget : other.target with
    | reference otherValue =>
      unfold Proxy.referenceKey? at sameKey
      rw [otherTarget] at sameKey
      obtain ⟨-, _, otherIdentity, same⟩ := ReferenceKey.of?_eq_some.mp sameKey
      have sameTarget := congrArg ReferenceKey.target same
      dsimp only at sameTarget
      rw [sameTarget] at otherIdentity
      have otherSuits := (goes.sound sound).suited (goes.disposed.trans enabled) living owned
        otherTarget otherIdentity (goes.used used found)
      exact otherSuits.unique suits otherIdentity identity
    | _ =>
      unfold Proxy.referenceKey? at sameKey
      rw [otherTarget] at sameKey
      cases sameKey
  · intro between burials goes unfound
    have enabledStill := goes.disposed.trans enabled
    have living := goes.used used found
    have inside := (goes.sound sound).kept.inside
    rw [← steady burials] at unfound
    have step := ProxyStep.reference enabledStill keyed (Store.isLive_iff.mpr ⟨_, living⟩) unfound
    refine .create rfl (fun _ member => member) ?_ ?_ (fun kept => kept.step step) ?_
    · rw [engine_make inside]
    · rw [engine_make inside]
      rfl
    · rintro _ _ _ ⟨⟩ ⟨⟩ sameIdentity
      cases identity.symm.trans sameIdentity
      exact ⟨contents, living, suits⟩

/-- Whoever asks for the proxy of a type is given one. -/
theorem findHandle_gives (sound : world.IsSound engine) (type : Host.TypeRef) (flags : ItemFlags) :
    (findHandle engine type flags).Gives engine world fun cell after =>
      after.Stands engine cell (.type type) := by
  refine requireCache_gives fun enabled => ?_
  have steady {between : World} (burials : Burials world between) :
      (between.engine engine).cache.handles = (world.engine engine).cache.handles :=
    (burials.keep sound.kept).2.2.2
  refine findOrMake_gives Proxy.handleKey? sound enabled rfl rfl ?_ ?_ ?_
  · intro between burials soundStill enabledStill
    rw [← steady burials]
    exact (soundStill.kept.serves enabledStill).handles
  · intro between cell other goes living owned sameKey
    unfold Proxy.handleKey? at sameKey
    split at sameKey
    next mentioned stands =>
      have sameType := congrArg HandleKey.type (Option.some.inj sameKey)
      rw [stands]
      exact congrArg Host.Value.type sameType
    next => cases sameKey
  · intro between burials goes unfound
    have inside := (goes.sound sound).kept.inside
    rw [← steady burials] at unfound
    have step := ProxyStep.handle (goes.disposed.trans enabled) unfound
    refine .create rfl (fun _ member => member) ?_ ?_ (fun kept => kept.step step) ?_
    · rw [engine_make inside]
    · rw [engine_make inside]
      rfl
    · rintro _ _ _ ⟨⟩ ⟨⟩

/-- Whoever asks for a proxy of a value held by value is given one. -/
theorem makeBoxed_gives (value : Host.Value) (flags : ItemFlags) :
    (makeBoxed engine value flags).Gives engine world fun cell after =>
      after.Stands engine cell value := by
  refine requireCache_gives fun enabled => ?_
  have made : Goes engine world
      (world.create (.proxy ⟨engine, .boxed value, none, flags⟩)).1 := by
    refine .create rfl (fun _ member => member) rfl rfl (fun kept => kept.step (.boxed _ _ _)) ?_
    rintro _ _ _ ⟨⟩ ⟨⟩
  refine .of_outcome (outcome_create _ _) (made.trans (.keep _ world.store.cells.size)) ?_
  exact ⟨enabled, _, Store.get?_create_size _ _, rfl, rfl⟩

theorem boxValue_gives (sound : world.IsSound engine) (value : Host.Value) (flags : ItemFlags) :
    (boxValue engine value flags).Gives engine world fun cell after =>
      after.Stands engine cell value := by
  have holds : (holdCells value.cells : ScriptRun Unit).Gives engine world fun _ _ => True :=
    .of_outcome (outcome_update _ _) (.hold world _) trivial
  unfold boxValue
  refine holds.bind fun _ _ goes _ => ?_
  refine (reserve_gives (goes.sound sound)).bind fun _ _ _ _ => ?_
  exact makeBoxed_gives value flags

/-- The proxy of a value held by reference is given, whatever type the value is declared as. -/
theorem proxyReference_gives (sound : world.IsSound engine) {value : Host.Value} {target : CellId}
    {contents : Cell} (identity : value.identity? = some target) (weak : value.hasWeakForm = true)
    (used : world.InUse target) (found : world.store.get? target = some contents)
    (suits : contents.Suits value) (declared : Host.TypeRef) (flags : ItemFlags) :
    (proxyReference engine value declared flags).Gives engine world fun cell after =>
      after.Stands engine cell value := by
  have holds : (holdCells value.cells : ScriptRun Unit).Gives engine world fun _ _ => True :=
    .of_outcome (outcome_update _ _) (.hold world _) trivial
  unfold proxyReference
  refine holds.bind fun _ held holding _ => ?_
  refine .bind_of_outcome (outcome_readStore _ _) ?_
  have soundHeld := holding.sound sound
  refine (reserve_gives soundHeld).bind fun _ after goes _ => ?_
  refine findReference_gives (goes.sound soundHeld) identity weak ?_ ?_ suits _ flags
  · exact goes.inUse (holding.inUse used)
  · exact goes.used (holding.inUse used) (holding.used used found)

end Bridge

end ScriptBridge
