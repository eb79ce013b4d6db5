/-
This file holds the changes that running code makes outside the use of members:
of what is in use, of cells, of engines and of the log. A change notes nothing,
logs no body, gives no engine another policy, puts no proxy into a cell and gives
no object a handler. Running code makes changes that keep the records and are plain,
but for those that are asked for. Most of them leave the calls in progress alone; those
that do not are the entering and the leaving of frames.
-/

import ScriptBridge.Proofs.Growth
import ScriptBridge.Proofs.SessionFrames
import ScriptBridge.Proofs.Targets

namespace ScriptBridge

open Host

/-! ### Cells -/

/-- The handlers of an event of the object in a cell. -/
def Cell.handlersOf : Cell → String → List CellId
  | .object contents, event => contents.handlersOf event
  | _, _ => []

namespace Store

/-- The handlers of an event of an object. -/
def handlersOf (store : Store) (cell : CellId) (event : String) : List CellId :=
  match store.get? cell with
  | some contents => contents.handlersOf event
  | none => []

/-- A cell may come to hold this without a use of a member: no proxy is put into it, and an object
in it gets no handlers. -/
structure Admits (store : Store) (cell : CellId) (contents : Cell) : Prop where
  plain : ∀ proxy, contents ≠ .proxy proxy
  handlers : ∀ event, List.Sublist (contents.handlersOf event) (store.handlersOf cell event)

theorem handlersOf_of_object? {store : Store} {cell : CellId} {object : HostObject}
    (found : store.object? cell = some object) (event : String) :
    store.handlersOf cell event = object.handlersOf event := by
  unfold handlersOf
  rw [object?_eq_some.mp found]
  rfl

/-- The object in a cell may change in everything but what handlers it has. -/
theorem Admits.object {store : Store} {cell : CellId} {former object : HostObject}
    (found : store.object? cell = some former)
    (handlers : ∀ event, List.Sublist (object.handlersOf event) (former.handlersOf event)) :
    store.Admits cell (.object object) where
  plain := nofun
  handlers event := by
    rw [handlersOf_of_object? found]
    exact handlers event

end Store

theorem Cell.handlersOf_of_isLoose {contents : Cell} (loose : contents.isLoose = true)
    (event : String) : contents.handlersOf event = [] := by
  cases contents <;> first | rfl | exact nomatch loose

theorem Cell.IsFresh.handlersOf {contents : Cell} (fresh : contents.IsFresh) (event : String) :
    contents.handlersOf event = [] := by
  cases contents with
  | object object => exact fresh event
  | _ => rfl

/-- Something loose that is no proxy may come into a cell. -/
theorem Store.Admits.of_loose {store : Store} {cell : CellId} {contents : Cell}
    (isNoProxy : ∀ proxy, contents ≠ .proxy proxy) (loose : contents.isLoose = true) :
    store.Admits cell contents where
  plain := isNoProxy
  handlers event := Cell.handlersOf_of_isLoose loose event ▸ List.nil_sublist _

/-! ### Changes -/

/-- The label of an entry that is of a body. -/
def LogEntry.label? {View : Type} : LogEntry View → Option String
  | .call label _ _ => some label
  | _ => none

/-- A change of one thing of the world. -/
inductive Change : World → World → Prop
  | held (world : World) (held : List CellId) : Change world { world with held }
  | locals (world : World) (locals : List (Named Script.Value)) : Change world { world with locals }
  | log (world : World) {entry : LogEntry Shown} (plain : entry.label? = none) :
      Change world { world with log := world.log.push entry }
  | collect (world : World) : Change world { world with collections := world.collections + 1 }
  | create (world : World) {contents : Cell} (fresh : ∀ event, contents.handlersOf event = []) :
      Change world (world.create contents).1
  | put (world : World) {cell : CellId} {contents : Cell}
      (admits : world.store.Admits cell contents) :
      Change world { world with store := world.store.put cell contents }
  | append (world : World) (cell : CellId) (item : Script.Value) :
      Change world { world with store := world.store.modify cell (·.append item) }
  | engine (world : World) (engine : EngineId) (change : Engine → Engine)
      (policy : ∀ state, (change state).policy = state.policy)
      (modules : ∀ state, (change state).modules = state.modules) :
      Change world (world.modifyEngine engine change)
  | reap (world : World) : Change world world.reap

/-- The cells that the record of an engine's proxies has entries of. -/
def ProxyCache.entries (cache : ProxyCache) : List CellId :=
  cache.references.map (·.2) ++ cache.handles.map (·.2)

/-- The record has an entry of a cell where it finds it under some flags. -/
theorem ProxyCache.mem_entries {cache : ProxyCache} {cell : CellId} :
    cell ∈ cache.entries ↔ ∃ flags, (flags, cell) ∈ cache.marks := by
  unfold entries marks
  simp only [List.mem_append, List.mem_map, Prod.mk.injEq]
  constructor
  · rintro (⟨entry, listed, same⟩ | ⟨entry, listed, same⟩)
    · exact ⟨_, .inl ⟨entry, listed, rfl, same⟩⟩
    · exact ⟨_, .inr ⟨entry, listed, rfl, same⟩⟩
  · rintro ⟨flags, ⟨entry, listed, -, same⟩ | ⟨entry, listed, -, same⟩⟩
    · exact .inl ⟨entry, listed, same⟩
    · exact .inr ⟨entry, listed, same⟩

/-- The record is the one of a disposed engine if it was before, and finds nothing that it did not
find. -/
structure ProxyCache.Wanes (before after : ProxyCache) : Prop where
  disposed : before.disposed = true → after.disposed = true
  marks : ∀ mark ∈ after.marks, mark ∈ before.marks

theorem ProxyCache.Wanes.refl (cache : ProxyCache) : cache.Wanes cache := ⟨id, fun _ => id⟩

theorem ProxyCache.Wanes.trans {first second third : ProxyCache} (left : first.Wanes second)
    (right : second.Wanes third) : first.Wanes third :=
  ⟨right.disposed ∘ left.disposed, fun mark listed => left.marks mark (right.marks mark listed)⟩

theorem ProxyCache.Wanes.entries {before after : ProxyCache} (wanes : before.Wanes after) :
    ∀ cell ∈ after.entries, cell ∈ before.entries := by
  intro cell listed
  obtain ⟨flags, marked⟩ := mem_entries.mp listed
  exact mem_entries.mpr ⟨flags, wanes.marks _ marked⟩

/-- An engine that is disposed stays so, and what comes into the record of an engine's proxies is a
proxy of that engine. -/
structure World.KeepsRecords (before after : World) : Prop where
  disposed : ∀ engine, (before.engine engine).isDisposed = true →
    (after.engine engine).isDisposed = true
  entries : ∀ engine, ∀ cell ∈ (after.engine engine).cache.entries,
    cell ∈ (before.engine engine).cache.entries ∨
      ∃ proxy, after.store.proxy? cell = some proxy ∧ proxy.engine = engine

/-- Changes one after another, each of which keeps the records and the ties. -/
abbrev Makings : World → World → Prop :=
  Relation.ReflTransGen fun before after =>
    Change before after ∧ before.KeepsRecords after ∧ before.KeepsTies after

/-- Changes that keep the records and the ties, each of them plain. -/
abbrev Changes : World → World → Prop :=
  Relation.ReflTransGen fun before after =>
    Change before after ∧ before.KeepsRecords after ∧ before.KeepsTies after ∧
      before.KeepsPlain after

/-! ### What changes keep -/

/-- No engine has come or gone, and each has the modules that it had. -/
structure World.KeepsModules (before after : World) : Prop where
  size : after.engines.size = before.engines.size
  modules : ∀ engine, (after.engine engine).modules = (before.engine engine).modules

/-- What every change keeps. -/
structure World.Keeps (before after : World) : Prop where
  history : after.history = before.history
  labels : after.log.toList.filterMap LogEntry.label? =
    before.log.toList.filterMap LogEntry.label?
  types : after.store.types = before.store.types
  size_le : before.store.cells.size ≤ after.store.cells.size
  policy : ∀ engine, (after.engine engine).policy = (before.engine engine).policy
  modules : before.KeepsModules after
  cells : ∀ {cell contents}, after.store.get? cell = some contents →
    before.store.get? cell = some contents ∨
      (before.store.cells.size ≤ cell ∧ ∀ event, contents.handlersOf event = []) ∨
      before.store.Admits cell contents

namespace World

theorem KeepsModules.of_same {before after : World} (engines : after.engines = before.engines) :
    before.KeepsModules after where
  size := by rw [engines]
  modules _ := by
    unfold World.engine
    rw [engines]

theorem KeepsModules.trans {before between after : World} (first : before.KeepsModules between)
    (second : between.KeepsModules after) : before.KeepsModules after where
  size := second.size.trans first.size
  modules engine := (second.modules engine).trans (first.modules engine)

theorem keepsModules_modifyEngine (world : World) (engine : EngineId) {change : Engine → Engine}
    (keeps : ∀ state, (change state).modules = state.modules) :
    world.KeepsModules (world.modifyEngine engine change) where
  size := size_modifyEngine world engine change
  modules := part_modifyEngine keeps

theorem KeepsRecords.of_cache {before after : World}
    (wanes : ∀ engine, (before.engine engine).cache.Wanes (after.engine engine).cache) :
    before.KeepsRecords after where
  disposed engine := (wanes engine).disposed
  entries engine cell entry := .inl ((wanes engine).entries cell entry)

theorem KeepsRecords.of_same {before after : World} (engines : after.engines = before.engines) :
    before.KeepsRecords after := by
  refine .of_cache fun engine => ?_
  unfold World.engine
  rw [engines]
  exact .refl _

theorem KeepsRecords.refl (world : World) : world.KeepsRecords world := .of_same rfl

theorem ConfinesTo.of_cache {made : Proxy → Prop} {before after : World}
    (store : after.store = before.store)
    (wanes : ∀ engine, (before.engine engine).cache.Wanes (after.engine engine).cache) :
    before.ConfinesTo made after :=
  .of_store store fun engine mark listed => .inl ((wanes engine).marks mark listed)

theorem wanes_modifyEngine {world : World} {engine : EngineId} {change : Engine → Engine}
    (wanes : (world.engine engine).cache.Wanes (change (world.engine engine)).cache)
    (other : EngineId) :
    (world.engine other).cache.Wanes ((world.modifyEngine engine change).engine other).cache := by
  rcases engine_modifyEngine world engine change other with same | ⟨rfl, changed⟩
  · rw [same]
    exact .refl _
  · rw [changed]
    exact wanes

theorem keepsRecords_modifyEngine {world : World} {engine : EngineId} {change : Engine → Engine}
    (wanes : (world.engine engine).cache.Wanes (change (world.engine engine)).cache) :
    world.KeepsRecords (world.modifyEngine engine change) :=
  .of_cache (wanes_modifyEngine wanes)

theorem confinesTo_modifyEngine {made : Proxy → Prop} {world : World} {engine : EngineId}
    {change : Engine → Engine}
    (wanes : (world.engine engine).cache.Wanes (change (world.engine engine)).cache) :
    world.ConfinesTo made (world.modifyEngine engine change) :=
  .of_cache rfl (wanes_modifyEngine wanes)

/-- A proxy may come into the record of its engine. -/
theorem keepsRecords_add {world : World} {cell : CellId} {proxy : Proxy}
    (found : world.store.proxy? cell = some proxy) {change : Engine → Engine}
    (disposed : (world.engine proxy.engine).isDisposed = true →
      (change (world.engine proxy.engine)).isDisposed = true)
    (entries : ∀ entry ∈ (change (world.engine proxy.engine)).cache.entries,
      entry = cell ∨ entry ∈ (world.engine proxy.engine).cache.entries) :
    world.KeepsRecords (world.modifyEngine proxy.engine change) where
  disposed other := by
    rcases engine_modifyEngine world proxy.engine change other with same | ⟨rfl, changed⟩
    · rw [same]
      exact id
    · rw [changed]
      exact disposed
  entries other entry listed := by
    rcases engine_modifyEngine world proxy.engine change other with same | ⟨rfl, changed⟩
    · rw [same] at listed
      exact .inl listed
    · rw [changed] at listed
      rcases entries entry listed with rfl | known
      · exact .inr ⟨proxy, found, rfl⟩
      · exact .inl known

/-- A proxy may come into the record of its engine under flags that are private if it is. -/
theorem confinesTo_add {made : Proxy → Prop} {world : World} {cell : CellId} {proxy : Proxy}
    {flags : ItemFlags} (found : world.store.proxy? cell = some proxy)
    (hidden : flags.contains .privateAccess = false → proxy.isPrivate = false)
    {change : Engine → Engine}
    (marks : ∀ mark ∈ (change (world.engine proxy.engine)).cache.marks,
      mark = (flags, cell) ∨ mark ∈ (world.engine proxy.engine).cache.marks) :
    world.ConfinesTo made (world.modifyEngine proxy.engine change) := by
  refine .of_store rfl fun other mark listed => ?_
  rcases engine_modifyEngine world proxy.engine change other with same | ⟨rfl, changed⟩
  · rw [same] at listed
    exact .inl listed
  · rw [changed] at listed
    rcases marks mark listed with rfl | known
    · refine .inr ⟨Store.lt_size_of_proxy? found, fun plain other again => ?_⟩
      cases found.symm.trans again
      exact hidden plain
    · exact .inl known

/-- What keeps all this gives no object a handler. -/
theorem Keeps.handlersOf {before after : World} (keeps : before.Keeps after) (cell : CellId)
    (event : String) :
    List.Sublist (after.store.handlersOf cell event) (before.store.handlersOf cell event) := by
  cases found : after.store.get? cell with
  | none =>
    unfold Store.handlersOf
    rw [found]
    exact List.nil_sublist _
  | some contents =>
    have left : after.store.handlersOf cell event = contents.handlersOf event := by
      unfold Store.handlersOf
      rw [found]
    rw [left]
    rcases keeps.cells found with same | ⟨-, fresh⟩ | admits
    · unfold Store.handlersOf
      rw [same]
    · rw [fresh]
      exact List.nil_sublist _
    · exact admits.handlers event

/-- A change of nothing but the cells, and of what does not matter here. -/
theorem Keeps.of_store {before after : World} (history : after.history = before.history)
    (log : after.log = before.log) (engines : after.engines = before.engines)
    (types : after.store.types = before.store.types)
    (size_le : before.store.cells.size ≤ after.store.cells.size)
    (cells : ∀ {cell contents}, after.store.get? cell = some contents →
      before.store.get? cell = some contents ∨
        (before.store.cells.size ≤ cell ∧ ∀ event, contents.handlersOf event = []) ∨
        before.store.Admits cell contents) : before.Keeps after where
  history := history
  labels := by rw [log]
  types := types
  size_le := size_le
  policy engine := by
    unfold World.engine
    rw [engines]
  modules := .of_same engines
  cells := cells

/-- A change of nothing that matters here. -/
theorem Keeps.of_same {before after : World} (history : after.history = before.history)
    (log : after.log = before.log) (engines : after.engines = before.engines)
    (store : after.store = before.store) : before.Keeps after := by
  have types : after.store.types = before.store.types := by rw [store]
  have size : before.store.cells.size = after.store.cells.size := by rw [store]
  refine .of_store history log engines types (Nat.le_of_eq size) fun found => ?_
  rw [store] at found
  exact .inl found

theorem Keeps.refl (world : World) : world.Keeps world := .of_same rfl rfl rfl rfl

theorem Burials.keeps {before after : World} (burials : Burials before after) :
    before.Keeps after := by
  induction burials with
  | refl => exact .refl before
  | @tail world _ _ last kept =>
    obtain @⟨cell, contents, living, _⟩ := last
    have ticket : (world.bury cell).history = world.history ∧ (world.bury cell).log = world.log ∧
        (∀ engine, ((world.bury cell).engine engine).policy = (world.engine engine).policy) ∧
        world.KeepsModules (world.bury cell) := by
      rw [bury_of_get? living]
      cases contents with
      | proxy proxy =>
        refine ⟨rfl, rfl, part_modifyEngine fun _ => rfl, ?_⟩
        refine KeepsModules.trans ?_ (keepsModules_modifyEngine _ proxy.engine fun _ => rfl)
        exact .of_same rfl
      | _ => exact ⟨rfl, rfl, fun _ => rfl, .of_same rfl⟩
    obtain ⟨history, log, policy, modules⟩ := ticket
    have store : (world.bury cell).store = world.store.remove cell := store_bury living
    exact {
      history := history.trans kept.history
      labels := by rw [log, kept.labels]
      types := by rw [store]; exact kept.types
      size_le := by rw [store, Store.size_remove]; exact kept.size_le
      policy := fun engine => (policy engine).trans (kept.policy engine)
      modules := kept.modules.trans modules
      cells := fun found => by
        rw [store] at found
        exact kept.cells (Store.get?_of_get?_remove found) }

/-- Burying cells disposes no engine, and leaves none that is disposed. -/
theorem Burials.isDisposed {before after : World} (burials : Burials before after)
    (engine : EngineId) :
    (after.engine engine).isDisposed = (before.engine engine).isDisposed := by
  induction burials with
  | refl => rfl
  | @tail world _ _ last inductionHypothesis =>
    obtain @⟨cell, contents, living, _⟩ := last
    have ticket : ∀ engine,
        ((world.bury cell).engine engine).isDisposed = (world.engine engine).isDisposed := by
      rw [bury_of_get? living]
      cases contents with
      | proxy proxy => exact part_modifyEngine fun _ => rfl
      | _ => exact fun _ => rfl
    rw [ticket, inductionHypothesis]

/-- Burying cells keeps the records but for tickets. -/
theorem Burials.wanesCache {before after : World} (burials : Burials before after)
    (engine : EngineId) : (before.engine engine).cache.Wanes (after.engine engine).cache := by
  induction burials with
  | refl => exact .refl _
  | @tail world _ _ last inductionHypothesis =>
    obtain @⟨cell, contents, living, _⟩ := last
    refine inductionHypothesis.trans ?_
    rw [bury_of_get? living]
    cases contents with
    | proxy proxy => exact wanes_modifyEngine ⟨id, fun _ => id⟩ engine
    | _ => exact .refl _

theorem Burials.keepsRecords {before after : World} (burials : Burials before after) :
    before.KeepsRecords after :=
  .of_cache burials.wanesCache

/-- Burying cells makes nothing. -/
theorem Burials.get? {before after : World} (burials : Burials before after) :
    after.store.cells.size = before.store.cells.size ∧ ∀ {cell contents},
      after.store.get? cell = some contents → before.store.get? cell = some contents := by
  induction burials with
  | refl => exact ⟨rfl, id⟩
  | tail _ last inductionHypothesis =>
    obtain ⟨living, -⟩ := last
    rw [store_bury living, Store.size_remove]
    exact ⟨inductionHypothesis.1,
      fun found => inductionHypothesis.2 (Store.get?_of_get?_remove found)⟩

theorem Burials.confinesTo {made : Proxy → Prop} {before after : World}
    (burials : Burials before after) : before.ConfinesTo made after where
  size_le := Nat.le_of_eq burials.get?.1.symm
  proxies {_ now} found _ := by
    rw [Store.proxy?_eq_some] at found
    exact .inl ⟨now, Store.proxy?_eq_some.mpr (burials.get?.2 found), .refl now⟩
  handles found := by
    rw [Store.handle?_eq_some] at found ⊢
    exact burials.get?.2 found
  marks engine mark listed := .inl ((burials.wanesCache engine).marks mark listed)

theorem Burials.keepsPlain {before after : World} (burials : Burials before after) :
    before.KeepsPlain after :=
  ⟨burials.confinesTo, .of_cells fun found => .inl (burials.get?.2 found)⟩

end World

/-- A change keeps the history, the labels, the types, the policies and the modules, and what it
leaves in a cell is what was in it, or new, or admitted. -/
theorem Change.keeps {before after : World} (change : Change before after) :
    before.Keeps after := by
  cases change with
  | held held => exact .of_same rfl rfl rfl rfl
  | locals locals => exact .of_same rfl rfl rfl rfl
  | collect => exact .of_same rfl rfl rfl rfl
  | reap => exact (World.reap_spec before).1.keeps
  | engine engine change policy modules =>
    exact { World.Keeps.refl before with
      policy := World.part_modifyEngine policy
      modules := World.keepsModules_modifyEngine before engine modules }
  | @log entry plain =>
    refine { World.Keeps.refl before with modules := .of_same rfl, labels := ?_ }
    rw [Array.toList_push, List.filterMap_append, List.filterMap_cons, plain, List.filterMap_nil,
      List.append_nil]
  | @create contents fresh =>
    have grown : before.store.cells.size ≤ (before.store.create contents).1.cells.size := by
      rw [Store.size_create]
      exact Nat.le_succ _
    refine .of_store rfl rfl rfl rfl grown fun found => ?_
    rcases Store.get?_create found with same | ⟨rfl, rfl⟩
    · exact .inl same
    · exact .inr (.inl ⟨Nat.le_refl _, fresh⟩)
  | @put cell contents admits =>
    have size := Store.size_put before.store cell contents
    refine .of_store rfl rfl rfl rfl (Nat.le_of_eq size.symm) fun found => ?_
    rcases Store.get?_put found with same | ⟨rfl, rfl⟩
    · exact .inl same
    · exact .inr (.inr admits)
  | append cell item =>
    have size := Store.size_modify before.store cell (·.append item)
    refine .of_store rfl rfl rfl rfl (Nat.le_of_eq size.symm) fun found => ?_
    rcases Store.get?_append found with same | ⟨items, rfl⟩
    · exact .inl same
    · exact .inr (.inr ⟨nofun, fun _ => List.nil_sublist _⟩)

/-- Changes leave the history as it is. -/
theorem Changes.history {before after : World} (changes : Changes before after) :
    after.history = before.history := by
  induction changes with
  | refl => rfl
  | tail _ last inductionHypothesis => rw [last.1.keeps.history, inductionHypothesis]

/-! ### Relations that take in changes -/

/-- A relation that takes in every change that keeps the records and the ties and is plain. -/
class ChangeRelation (relation : World → World → Prop) : Prop extends RunRelation relation where
  change : ∀ {before after}, Change before after → before.KeepsRecords after →
    before.KeepsTies after → before.KeepsPlain after → relation before after

instance : ChangeRelation Changes where
  refl _ := .refl
  trans := .trans
  held world held :=
    .single ⟨.held world held, .of_same rfl, .of_same rfl rfl, .of_same rfl rfl⟩
  change change records ties plain := .single ⟨change, records, ties, plain⟩

instance : ChangeRelation Makings where
  refl _ := .refl
  trans := .trans
  held world held := .single ⟨.held world held, .of_same rfl, .of_same rfl rfl⟩
  change change records ties _ := .single ⟨change, records, ties⟩

instance (made : Proxy → Prop) : ChangeRelation (World.ConfinesTo made) where
  refl := .refl
  trans := .trans
  held _ _ := .of_same rfl rfl
  change _ _ _ plain := .of_confines plain.confines

instance : ChangeRelation World.KeepsTargets where
  refl := .refl
  trans := .trans
  held _ _ := .of_store rfl
  change _ _ _ plain := plain.targets

instance : ChangeRelation World.KeepsTies where
  refl := .refl
  trans := .trans
  held _ _ := .of_same rfl rfl
  change _ _ ties _ := ties

/-- A relation that takes in every change takes in changes one after another. -/
theorem Changes.related {relation : World → World → Prop} [ChangeRelation relation]
    {before after : World} (changes : Changes before after) : relation before after := by
  induction changes with
  | refl => exact RunRelation.refl _
  | tail _ last inductionHypothesis =>
    obtain ⟨change, records, ties, plain⟩ := last
    exact RunRelation.trans inductionHypothesis
      (ChangeRelation.change change records ties plain)

/-- A conduct that takes in changes that leave the calls in progress alone. -/
class ChangeConduct (conduct : Conduct) : Prop extends RunConduct conduct where
  changes : ∀ {before after short}, Changes before after → before.KeepsCalls after →
    conduct before short after

/-- What takes in every change takes in those that leave the calls alone. -/
instance {relation : World → World → Prop} [ChangeRelation relation] : ChangeConduct relation where
  changes changes _ := changes.related

/-- Changes that leave the calls in progress alone. -/
structure LevelChanges (before after : World) : Prop where
  changes : Changes before after
  calls : before.KeepsCalls after

instance : RunRelation LevelChanges where
  refl world := ⟨.refl, .refl world⟩
  trans first second := ⟨first.changes.trans second.changes, first.calls.trans second.calls⟩
  held world held := ⟨RunRelation.held world held, .of_same rfl⟩

instance : ChangeConduct LevelChanges where
  changes := LevelChanges.mk

/-- The session of an engine changes. -/
theorem World.withSession_changes (world : World) (engine : EngineId) (session : Session) :
    Changes world (world.withSession engine session) :=
  ChangeRelation.change (.engine world engine _ (fun _ => rfl) fun _ => rfl)
    (World.keepsRecords_modifyEngine (.refl _)) (.modifyEngine world engine fun _ => rfl)
    (.of_store rfl (World.confinesTo_modifyEngine (.refl _)))

/-- The session of an engine is replaced by one with the same frames, in the same state. -/
theorem World.withSession_level {world : World} {engine : EngineId} {session : Session}
    (frames : session.frames = (world.session engine).frames)
    (state : session.state = (world.session engine).state) :
    LevelChanges world (world.withSession engine session) :=
  ⟨world.withSession_changes engine session, World.keepsCalls_withSession frames state⟩

instance : RunRelation World.KeepsCalls where
  refl := .refl
  trans := .trans
  held _ _ := .of_same rfl

instance : ChangeConduct World.KeepsCalls where
  changes _ calls := calls

section

variable {conduct : Conduct} [ChangeConduct conduct] {before after : World} {short : Bool}

theorem LevelChanges.conducted (level : LevelChanges before after) : conduct before short after :=
  ChangeConduct.changes level.changes level.calls

/-- A conduct takes in one change as well. -/
theorem Change.conducted (change : Change before after) (records : before.KeepsRecords after)
    (ties : before.KeepsTies after) (plain : before.KeepsPlain after)
    (calls : before.KeepsCalls after) : conduct before short after :=
  ChangeConduct.changes (.single ⟨change, records, ties, plain⟩) calls

end

/-- What takes in every change that keeps the records and the ties takes in whatever they make. -/
theorem Makings.related {relation : World → World → Prop} [RunRelation relation]
    (each : ∀ {before after}, Change before after → before.KeepsRecords after →
      before.KeepsTies after → relation before after) {before after : World}
    (makings : Makings before after) : relation before after := by
  induction makings with
  | refl => exact RunRelation.refl _
  | tail _ last inductionHypothesis =>
    exact RunRelation.trans inductionHypothesis (each last.1 last.2.1 last.2.2)

theorem Grows.changes {before after : World} (grows : Grows before after) :
    Changes before after := by
  induction grows with
  | refl => exact .refl
  | tail _ last inductionHypothesis =>
    refine .tail inductionHypothesis ?_
    cases last with
    | held held => exact ⟨.held _ held, .of_same rfl, .of_same rfl rfl, .of_same rfl rfl⟩
    | create contents converted plain =>
      have fresh : contents.IsFresh := by
        cases contents <;> trivial
      have apt : contents.isApt = true := by
        cases contents <;> first | rfl | cases converted
      exact ⟨.create _ fresh.handlersOf, .of_same rfl, .create _ fresh,
        .create _ (Bool.and_eq_true_iff.mpr ⟨plain, apt⟩)⟩

theorem Grows.keepsSessions {before after : World} (grows : Grows before after) :
    before.KeepsSessions after := by
  induction grows with
  | refl => exact RunRelation.refl before
  | tail _ last inductionHypothesis =>
    refine RunRelation.trans inductionHypothesis ?_
    cases last <;> exact .of_same rfl rfl

namespace Run

variable {Failure Result : Type}

/-! ### Runs that change one thing -/

namespace Leaves

variable {conduct : Conduct} [ChangeConduct conduct]

theorem grows {run : Run Failure Result} (leaves : Leaves Grows run) : Leaves conduct run :=
  leaves.mono fun grows => ChangeConduct.changes grows.changes grows.keepsSessions.keepsCalls

theorem update {change : World → World} (changes : ∀ world, Change world (change world))
    (records : ∀ world : World, world.KeepsRecords (change world))
    (ties : ∀ world : World, world.KeepsTies (change world))
    (plain : ∀ world : World, world.KeepsPlain (change world))
    (calls : ∀ world : World, world.KeepsCalls (change world)) :
    Leaves conduct (Run.update change : Run Failure Unit) :=
  fun world => (changes world).conducted (records world) (ties world) (plain world) (calls world)

/-- Something plain is made that ties nothing. -/
theorem create (contents : Cell) (fresh : contents.IsFresh) (plain : contents.isPlain) :
    Leaves conduct (Run.create contents : Run Failure CellId) :=
  fun world => RunConduct.held _ (Change.conducted (.create world fresh.handlersOf)
    (.of_same rfl) (.create world fresh) (.create world plain) (.of_same rfl))

omit [ChangeConduct conduct] in
/-- A proxy of any kind is made. -/
theorem create_makings (proxy : Proxy) :
    Leaves Makings (Run.create (.proxy proxy) : Run Failure CellId) :=
  have fresh : (Cell.proxy proxy).IsFresh := trivial
  fun world => .trans (.single ⟨.create world fresh.handlersOf, .of_same rfl,
    .create world fresh⟩) (RunRelation.held _ _)

omit [ChangeConduct conduct] in
theorem create_confinesTo {made : Proxy → Prop} {proxy : Proxy} (is : made proxy) :
    Leaves (World.ConfinesTo made) (Run.create (.proxy proxy) : Run Failure CellId) :=
  fun world => .trans (world.confinesTo_make is) (RunRelation.held _ _)

omit [ChangeConduct conduct] in
/-- Whatever is made, the calls in progress are left alone. -/
theorem create_keepsCalls (contents : Cell) :
    Leaves World.KeepsCalls (Run.create contents : Run Failure CellId) :=
  fun _ => .of_same rfl

omit [ChangeConduct conduct] in
theorem create_keepsTargets {proxy : Proxy} (apt : proxy.target.isApt = true) :
    Leaves World.KeepsTargets (Run.create (.proxy proxy) : Run Failure CellId) :=
  have made : (Cell.proxy proxy).isApt = true := apt
  fun world => .trans (.create world made) (.of_store rfl)

/-- Something loose that is no proxy comes into a cell. -/
theorem put (cell : CellId) (contents : Store → Cell)
    (isNoProxy : ∀ store proxy, contents store ≠ .proxy proxy)
    (loose : ∀ store, (contents store).isLoose) (plain : ∀ store, (contents store).isPlain) :
    Leaves conduct (Run.modifyStore (fun store => store.put cell (contents store)) :
      Run Failure Unit) :=
  .update (fun world => .put world (.of_loose (isNoProxy world.store) (loose world.store)))
    (fun _ => .of_same rfl) (fun world => .of_put (loose world.store) rfl rfl)
    (fun world => .of_put (plain world.store) rfl rfl) fun _ => .of_same rfl

theorem modifyEngine (engine : EngineId) {change : Engine → Engine}
    (policy : ∀ state, (change state).policy = state.policy)
    (modules : ∀ state, (change state).modules = state.modules)
    (options : ∀ state, (change state).options = state.options)
    (wanes : ∀ state : Engine, state.cache.Wanes (change state).cache)
    (frames : ∀ state, (change state).session.frames = state.session.frames)
    (states : ∀ state, (change state).session.state = state.session.state) :
    Leaves conduct (Run.modifyEngine engine change : Run Failure Unit) :=
  .update (fun world => .engine world engine change policy modules)
    (fun _ => World.keepsRecords_modifyEngine (wanes _))
    (fun world => .modifyEngine world engine options)
    (fun _ => .of_store rfl (World.confinesTo_modifyEngine (wanes _)))
    fun world => world.keepsCalls_modifyEngine engine frames states

/-- The policy, the modules, the options and the record of an engine are left alone, and its frames
and the state of its session. -/
theorem modifyAside (engine : EngineId) {change : Engine → Engine}
    (aside : ∀ state, (change state).policy = state.policy ∧
      (change state).modules = state.modules ∧ (change state).options = state.options ∧
        (change state).cache = state.cache ∧
          (change state).session.frames = state.session.frames ∧
            (change state).session.state = state.session.state) :
    Leaves conduct (Run.modifyEngine engine change : Run Failure Unit) := by
  refine .modifyEngine engine (fun state => (aside state).1) (fun state => (aside state).2.1)
    (fun state => (aside state).2.2.1) (fun state => ?_) (fun state => (aside state).2.2.2.2.1)
    fun state => (aside state).2.2.2.2.2
  rw [(aside state).2.2.2.1]
  exact .refl _

/-- The record of an engine's proxies is replaced by what is left of it, and something is told of
what is gone. -/
theorem trimCache {Next : Type} (engine : EngineId) (trim : ProxyCache → ProxyCache × Nat)
    (wanes : ∀ cache : ProxyCache, cache.Wanes (trim cache).1)
    (tell : Nat → Next) :
    Leaves conduct (do
      let (cache, gone) := trim (← Run.engine engine).cache
      Run.modifyEngine engine fun engine => { engine with cache }
      return tell gone : Run Failure Next) := by
  intro world
  show conduct world false (world.modifyEngine engine fun state =>
    { state with cache := (trim (world.engine engine).cache).1 })
  refine Change.conducted ?_ ?_ ?_ ?_ ?_
  · exact .engine world engine _ (fun _ => rfl) fun _ => rfl
  · exact World.keepsRecords_modifyEngine (wanes _)
  · exact .modifyEngine world engine fun _ => rfl
  · exact .of_store rfl (World.confinesTo_modifyEngine (wanes _))
  · exact world.keepsCalls_modifyEngine engine (fun _ => rfl) fun _ => rfl

theorem reap : Leaves conduct (Run.reap : Run Failure Unit) :=
  .update .reap (fun world => (World.reap_spec world).1.keepsRecords)
    (fun world => (World.reap_spec world).1.keepsTies)
    (fun world => (World.reap_spec world).1.keepsPlain)
    fun world => (World.reap_spec world).1.keepsSessions.keepsCalls

end Leaves

end Run

end ScriptBridge
