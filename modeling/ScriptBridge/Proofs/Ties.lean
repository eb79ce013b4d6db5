/-
This file says what ties there are and how long they last: objects to the handlers
of their events, connections to what they connect, and engines to their options.
Most of what a world goes through leaves them alone. New cells come without ties,
and cells that are buried take theirs with them.
-/

import ScriptBridge.Proofs.Reaping

namespace ScriptBridge

open Host

theorem Store.object?_eq_some {store : Store} {cell : CellId} {object : HostObject} :
    store.object? cell = some object ↔ store.get? cell = some (.object object) := by
  unfold object?
  constructor
  · intro found
    split at found
    · next same => rwa [← Option.some.inj found]
    · cases found
  · intro found
    rw [found]

/-- Does a cell tie nothing, whatever it holds? -/
def Cell.isLoose : Cell → Bool
  | .object _ | .connection _ => false
  | _ => true

/-- A cell that is made like this ties nothing yet. -/
def Cell.IsFresh : Cell → Prop
  | .object contents => ∀ event, contents.handlersOf event = []
  | .connection _ => False
  | _ => True

/-- Every object has the handlers that it had, a new one has none, every connection is as it was,
none is new, and the options of engines are the same. -/
structure World.KeepsTies (before after : World) : Prop where
  size_le : before.store.cells.size ≤ after.store.cells.size
  objects : ∀ {cell object}, after.store.object? cell = some object →
    (∃ former, before.store.object? cell = some former ∧
      object.handlersOf = former.handlersOf) ∨
      (before.store.cells.size ≤ cell ∧ ∀ event, object.handlersOf event = [])
  connections : ∀ {cell bond}, after.store.get? cell = some (.connection bond) →
    before.store.get? cell = some (.connection bond)
  options : ∀ engine, (after.engine engine).options = (before.engine engine).options

namespace World

/-- A part of an engine that a change keeps is the same for every engine afterwards. -/
theorem part_modifyEngine {Part : Type} {part : Engine → Part} {world : World}
    {engine : EngineId} {change : Engine → Engine}
    (keeps : ∀ state, part (change state) = part state) (other : EngineId) :
    part ((world.modifyEngine engine change).engine other) = part (world.engine other) := by
  unfold World.engine modifyEngine
  dsimp only
  rw [Array.getElem?_modify]
  split
  · cases world.engines[other]? with
    | none => rfl
    | some state => exact keeps state
  · rfl

/-- An engine that is not there does not change. -/
theorem modifyEngine_of_size_le {world : World} {engine : EngineId} {change : Engine → Engine}
    (unknown : world.engines.size ≤ engine) : world.modifyEngine engine change = world := by
  have same : world.engines.modify engine change = world.engines := by
    unfold Array.modify Array.modifyM
    rw [dif_neg (Nat.not_lt_of_le unknown)]
    rfl
  unfold modifyEngine
  rw [same]

/-- A change of an engine changes that one at most. -/
theorem engine_modifyEngine (world : World) (engine : EngineId) (change : Engine → Engine)
    (other : EngineId) :
    (world.modifyEngine engine change).engine other = world.engine other ∨
      engine = other ∧
        (world.modifyEngine engine change).engine other = change (world.engine engine) := by
  by_cases same : engine = other
  · subst same
    rcases Nat.lt_or_ge engine world.engines.size with known | unknown
    · exact .inr ⟨rfl, engine_modifyEngine_self known⟩
    · refine .inl ?_
      unfold World.engine modifyEngine
      rw [Array.getElem?_modify, if_pos rfl, Array.getElem?_eq_none unknown]
      rfl
  · exact .inl (engine_modifyEngine_of_ne same)

namespace KeepsTies

/-- Cells that are as they were, or loose, change no ties. -/
theorem of_cells {before after : World}
    (options : ∀ engine, (after.engine engine).options = (before.engine engine).options)
    (size_le : before.store.cells.size ≤ after.store.cells.size)
    (cells : ∀ {cell contents}, after.store.get? cell = some contents →
      before.store.get? cell = some contents ∨ contents.isLoose = true) :
    before.KeepsTies after where
  size_le := size_le
  objects {_ object} found := by
    rcases cells (Store.object?_eq_some.mp found) with same | loose
    · exact .inl ⟨object, Store.object?_eq_some.mpr same, rfl⟩
    · cases loose
  connections found := by
    rcases cells found with same | loose
    · exact same
    · cases loose
  options := options

theorem of_same {before after : World} (engines : after.engines = before.engines)
    (store : after.store = before.store) : before.KeepsTies after := by
  refine .of_cells (fun engine => ?_) (Nat.le_of_eq (by rw [store])) fun found => ?_
  · unfold World.engine
    rw [engines]
  · rw [store] at found
    exact .inl found

theorem refl (world : World) : world.KeepsTies world := .of_same rfl rfl

theorem trans {before between after : World} (first : before.KeepsTies between)
    (second : between.KeepsTies after) : before.KeepsTies after where
  size_le := Nat.le_trans first.size_le second.size_le
  objects found := by
    rcases second.objects found with ⟨_, known, same⟩ | ⟨outside, none⟩
    · rw [same]
      exact first.objects known
    · exact .inr ⟨Nat.le_trans first.size_le outside, none⟩
  connections := first.connections ∘ second.connections
  options engine := (second.options engine).trans (first.options engine)

theorem modifyEngine (world : World) (engine : EngineId) {change : Engine → Engine}
    (keeps : ∀ state, (change state).options = state.options) :
    world.KeepsTies (world.modifyEngine engine change) :=
  .of_cells (part_modifyEngine keeps) (Nat.le_refl _) .inl

theorem create (world : World) {contents : Cell} (fresh : contents.IsFresh) :
    world.KeepsTies (world.create contents).1 where
  size_le := by
    show world.store.cells.size ≤ (world.store.create contents).1.cells.size
    rw [Store.size_create]
    exact Nat.le_succ _
  objects {_ object} found := by
    rcases Store.get?_create (Store.object?_eq_some.mp found) with same | ⟨rfl, rfl⟩
    · exact .inl ⟨object, Store.object?_eq_some.mpr same, rfl⟩
    · exact .inr ⟨Nat.le_refl _, fresh⟩
  connections found := by
    rcases Store.get?_create found with same | ⟨-, rfl⟩
    · exact same
    · exact fresh.elim
  options _ := rfl

/-- Something loose comes into a cell. -/
theorem of_put {before after : World} {cell : CellId} {contents : Cell}
    (loose : contents.isLoose = true) (engines : after.engines = before.engines)
    (store : after.store = before.store.put cell contents) : before.KeepsTies after := by
  have size := Store.size_put before.store cell contents
  refine .of_cells (fun engine => ?_) (Nat.le_of_eq (store ▸ size.symm)) fun {other _} found => ?_
  · unfold World.engine
    rw [engines]
  · rw [store] at found
    rcases Store.get?_put found with same | ⟨-, rfl⟩
    · exact .inl same
    · exact .inr loose

/-- An object changes in everything but its handlers. -/
theorem put_object (world : World) {cell : CellId} {former object : HostObject}
    (found : world.store.object? cell = some former)
    (handlers : object.handlersOf = former.handlersOf) :
    world.KeepsTies { world with store := world.store.put cell (.object object) } where
  size_le := Nat.le_of_eq (Store.size_put world.store cell _).symm
  objects {other now} known := by
    rcases Store.get?_put (Store.object?_eq_some.mp known) with same | ⟨rfl, same⟩
    · exact .inl ⟨now, Store.object?_eq_some.mpr same, rfl⟩
    · cases same
      exact .inl ⟨former, found, handlers⟩
  connections known := by
    rcases Store.get?_put known with same | ⟨-, made⟩
    · exact same
    · cases made
  options _ := rfl

/-- An item comes to the end of a script array. -/
theorem append (world : World) (cell : CellId) (item : Script.Value) :
    world.KeepsTies { world with store := world.store.modify cell (·.append item) } := by
  have size := Store.size_modify world.store cell (·.append item)
  refine .of_cells (fun _ => rfl) (Nat.le_of_eq size.symm) fun found => ?_
  rcases Store.get?_append found with same | ⟨items, rfl⟩
  · exact .inl same
  · exact .inr rfl

end KeepsTies

/-- Burying cells leaves the ties of the others. -/
theorem Burials.keepsTies {before after : World} (burials : Burials before after) :
    before.KeepsTies after := by
  induction burials with
  | refl => exact .refl before
  | @tail world _ _ last kept =>
    obtain @⟨cell, contents, living, _⟩ := last
    refine kept.trans (.of_cells ?_ ?_ fun found => ?_)
    · rw [bury_of_get? living]
      cases contents with
      | proxy proxy => exact part_modifyEngine fun _ => rfl
      | _ => exact fun _ => rfl
    · exact Nat.le_of_eq (by rw [store_bury living, Store.size_remove])
    · rw [store_bury living] at found
      exact .inl (Store.get?_of_get?_remove found)

end World

end ScriptBridge
