/-
This file proves what reaping does. It buries living cells that nothing names,
one after another, and it does not stop before every living cell has a name. The
counts it keeps are the numbers of namings, by the anchors and by living cells;
a cell is dying exactly when it lives and its count has come to zero.
-/

import Mathlib.Logic.Relation
import ScriptBridge.Proofs.Cells

namespace ScriptBridge

namespace World

/-- Every naming of a cell: by the anchors and by living cells. -/
def names (world : World) : List CellId := world.anchors ++ world.store.namings

/-- Every living cell has a name. -/
def IsSettled (world : World) : Prop :=
  ∀ cell, world.store.isLive cell = true → cell ∈ world.names

/-- A living cell without a name is buried. -/
inductive Burial : World → World → Prop
  | bury {world : World} {cell : CellId} {contents : Cell}
      (living : world.store.get? cell = some contents) (unnamed : cell ∉ world.names) :
      Burial world (world.bury cell)

/-- Cells are buried one after another. -/
abbrev Burials : World → World → Prop := Relation.ReflTransGen Burial

/-! ### Engines -/

theorem engine_modifyEngine_self {world : World} {engine : EngineId} {change : Engine → Engine}
    (inside : engine < world.engines.size) :
    (world.modifyEngine engine change).engine engine = change (world.engine engine) := by
  unfold World.engine modifyEngine
  dsimp only
  rw [Array.getElem?_modify, if_pos rfl, Array.getElem?_eq_getElem inside]
  rfl

theorem engine_modifyEngine_of_ne {world : World} {engine other : EngineId}
    {change : Engine → Engine} (different : engine ≠ other) :
    (world.modifyEngine engine change).engine other = world.engine other := by
  unfold World.engine modifyEngine
  dsimp only
  rw [Array.getElem?_modify, if_neg different]

theorem size_modifyEngine (world : World) (engine : EngineId) (change : Engine → Engine) :
    (world.modifyEngine engine change).engines.size = world.engines.size :=
  Array.size_modify

/-- Changes of engines can be made in either order, at one engine only if they commute. -/
theorem modifyEngine_comm {world : World} {engine other : EngineId} {change twin : Engine → Engine}
    (commute : engine = other → ∀ state, change (twin state) = twin (change state)) :
    (world.modifyEngine engine change).modifyEngine other twin =
      (world.modifyEngine other twin).modifyEngine engine change := by
  unfold modifyEngine
  congr 1
  refine Array.ext_getElem? fun place => ?_
  simp only [Array.getElem?_modify]
  by_cases here : engine = place
  · by_cases there : other = place
    · rw [if_pos here, if_pos there, if_pos there, if_pos here, Option.map_map, Option.map_map]
      have same := commute (here.trans there.symm)
      exact congrArg (Option.map · _) (funext fun state => (same state).symm)
    · rw [if_pos here, if_neg there, if_neg there, if_pos here]
  · rw [if_neg here, if_neg here]

/-- Two changes of an engine are one. -/
theorem modifyEngine_modifyEngine (world : World) (engine : EngineId)
    (first second : Engine → Engine) :
    (world.modifyEngine engine first).modifyEngine engine second =
      world.modifyEngine engine (second ∘ first) := by
  unfold modifyEngine
  congr 1
  refine Array.ext_getElem? fun place => ?_
  simp only [Array.getElem?_modify]
  split
  · rw [Option.map_map]
  · rfl

/-- Only what a change makes of the engine as it is matters. -/
theorem modifyEngine_congr {world : World} {engine : EngineId} {change twin : Engine → Engine}
    (same : change (world.engine engine) = twin (world.engine engine)) :
    world.modifyEngine engine change = world.modifyEngine engine twin := by
  unfold modifyEngine
  congr 1
  refine Array.ext_getElem? fun place => ?_
  rw [Array.getElem?_modify, Array.getElem?_modify]
  split
  · next here =>
    subst here
    unfold World.engine at same
    cases found : world.engines[engine]? with
    | none => rfl
    | some state =>
      rw [found] at same
      exact congrArg some same
  · rfl

theorem modifyEngine_id (world : World) (engine : EngineId) :
    world.modifyEngine engine id = world := by
  have same : world.engines.modify engine id = world.engines :=
    Array.ext (Array.size_modify ..) fun place _ _ => by
      rw [Array.getElem_modify]
      exact ite_self _
  unfold modifyEngine
  rw [same]

/-- What an engine keeps alive does not change with a change that keeps it. -/
theorem anchors_modifyEngine {world : World} {engine : EngineId} {change : Engine → Engine}
    (keeps : ∀ state, (change state).cells = state.cells) :
    (world.modifyEngine engine change).anchors = world.anchors := by
  have same : (world.engines.modify engine change).toList.map Engine.cells =
      world.engines.toList.map Engine.cells := by
    rw [Array.toList_modify]
    refine List.ext_getElem? fun place => ?_
    rw [List.getElem?_map, List.getElem?_map, List.getElem?_modify]
    cases world.engines.toList[place]? with
    | none => rfl
    | some state =>
      show some (if engine = place then change state else state).cells = some state.cells
      split
      · rw [keeps]
      · rfl
  unfold anchors modifyEngine
  simp only [List.flatMap_def, same]

/-! ### Burials -/

theorem store_leaveTicket (world : World) (cell : CellId) (contents : Cell) :
    (world.leaveTicket cell contents).store = world.store := by
  cases contents <;> rfl

theorem anchors_leaveTicket (world : World) (cell : CellId) (contents : Cell) :
    (world.leaveTicket cell contents).anchors = world.anchors := by
  cases contents with
  | proxy proxy => exact anchors_modifyEngine fun _ => rfl
  | _ => rfl

variable {world : World} {cell : CellId} {contents : Cell}

/-- The burial of a living cell. -/
theorem bury_of_get? (living : world.store.get? cell = some contents) :
    world.bury cell =
      { world with store := world.store.remove cell, heap := world.heap.died contents }.leaveTicket
        cell contents := by
  unfold bury
  rw [living]

theorem store_bury (living : world.store.get? cell = some contents) :
    (world.bury cell).store = world.store.remove cell := by
  rw [bury_of_get? living, store_leaveTicket]

theorem anchors_bury (living : world.store.get? cell = some contents) :
    (world.bury cell).anchors = world.anchors := by
  rw [bury_of_get? living, anchors_leaveTicket]
  rfl

/-- A burial takes the names away that the buried cell gave, and no other. -/
theorem names_perm (living : world.store.get? cell = some contents) :
    world.names.Perm (contents.cells ++ (world.bury cell).names) := by
  unfold names
  rw [anchors_bury living, store_bury living]
  exact ((Store.namings_perm living).append_left _).trans (List.perm_append_comm_assoc _ _ _)

/-! ### Tallies -/

/-- The counts are the numbers of the names, and the dying cells are the living ones without a
name. -/
structure IsTally (store : Store) (names : List CellId) (state : Array Nat × List CellId) :
    Prop where
  size : state.1.size = store.cells.size
  count : ∀ cell < store.cells.size, state.1[cell]?.getD 0 = names.count cell
  nodup : state.2.Nodup
  dying : ∀ cell, cell ∈ state.2 ↔ store.isLive cell = true ∧ cell ∉ names

theorem lt_size_of_isLive {store : Store} (living : store.isLive cell = true) :
    cell < store.cells.size := by
  obtain ⟨contents, found⟩ := Store.isLive_iff.mp living
  exact Store.lt_size_of_get? found

/-- A tally stays one when a name and its count go together. -/
theorem IsTally.unname_one {store : Store} {names : List CellId} {state : Array Nat × List CellId}
    (tally : IsTally store (cell :: names) state) :
    IsTally store names
      (state.1.setIfInBounds cell (state.1[cell]?.getD 0 - 1),
        if state.1[cell]?.getD 0 - 1 == 0 && store.isLive cell then cell :: state.2
        else state.2) := by
  have spared : cell ∉ state.2 := fun member =>
    ((tally.dying cell).mp member).2 List.mem_cons_self
  have left : store.isLive cell = true →
      ((state.1[cell]?.getD 0 - 1 == 0) = true ↔ cell ∉ names) := fun living => by
    rw [tally.count cell (lt_size_of_isLive living), List.count_cons_self, Nat.add_sub_cancel,
      beq_iff_eq, List.count_eq_zero]
  refine ⟨?_, ?_, ?_, ?_⟩
  · rw [Array.size_setIfInBounds]
    exact tally.size
  · intro other inside
    have before := tally.count other inside
    by_cases here : cell = other
    · subst here
      rw [Array.getElem?_setIfInBounds_self_of_lt (tally.size ▸ inside), Option.getD_some, before,
        List.count_cons_self, Nat.add_sub_cancel]
    · rw [Array.getElem?_setIfInBounds_ne here, before, List.count_cons_of_ne here]
  · dsimp only
    split
    · exact List.nodup_cons.mpr ⟨spared, tally.nodup⟩
    · exact tally.nodup
  · intro other
    have before := tally.dying other
    rw [List.mem_cons, not_or] at before
    dsimp only
    by_cases here : other = cell
    · subst here
      by_cases living : store.isLive other = true
      · rw [living, Bool.and_true]
        by_cases named : other ∈ names
        · rw [if_neg fun zero => (left living).mp zero named]
          exact iff_of_false spared fun both => both.2 named
        · rw [if_pos ((left living).mpr named)]
          exact iff_of_true List.mem_cons_self ⟨rfl, named⟩
      · simp [living, spared]
    · split <;> simp [here, before]

/-- A tally stays one when names and their counts go together. -/
theorem IsTally.unname {store : Store} {gone names : List CellId} :
    ∀ {state}, IsTally store (gone ++ names) state →
      IsTally store names (World.unname store gone state) := by
  induction gone with
  | nil =>
    intro state tally
    exact tally
  | cons first rest inductionHypothesis =>
    intro state tally
    exact inductionHypothesis tally.unname_one

/-- The tally after a burial counts the names that are left. -/
theorem IsTally.bury {rest : List CellId} {counts : Array Nat}
    (tally : IsTally world.store world.names (counts, cell :: rest))
    (living : world.store.get? cell = some contents) :
    IsTally (world.bury cell).store (world.bury cell).names
      (World.unname (world.bury cell).store contents.cells (counts, rest)) := by
  have perm := names_perm living
  have size : (world.bury cell).store.cells.size = world.store.cells.size := by
    rw [store_bury living, Store.size_remove]
  refine IsTally.unname ⟨?_, ?_, ?_, ?_⟩
  · rw [size]
    exact tally.size
  · intro other inside
    rw [size] at inside
    rw [← perm.count_eq]
    exact tally.count other inside
  · exact (List.nodup_cons.mp tally.nodup).2
  · intro other
    have before := tally.dying other
    rw [List.mem_cons, perm.mem_iff] at before
    rw [store_bury living]
    by_cases here : other = cell
    · subst here
      have dead : (world.store.remove other).isLive other = false := by
        unfold Store.isLive
        rw [Store.get?_remove_self]
        rfl
      rw [dead]
      exact iff_of_false (List.nodup_cons.mp tally.nodup).1 fun both => nomatch both.1
    · have same : (world.store.remove cell).isLive other = world.store.isLive other := by
        unfold Store.isLive
        rw [Store.get?_remove_of_ne (Ne.symm here)]
      rw [same, ← before]
      exact (or_iff_right here).symm

/-! ### Reaping -/

/-- Counting names one by one comes to their numbers. -/
theorem count_foldl (names : List CellId) :
    ∀ (counts : Array Nat) (cell : CellId), cell < counts.size →
      (names.foldl (fun counts cell => counts.modify cell (· + 1)) counts)[cell]?.getD 0 =
        counts[cell]?.getD 0 + names.count cell := by
  induction names with
  | nil =>
    intro counts cell _
    rfl
  | cons first rest inductionHypothesis =>
    intro counts cell inside
    rw [List.foldl_cons, inductionHypothesis _ cell (by rwa [Array.size_modify]),
      Array.getElem?_modify, List.count_cons, Array.getElem?_eq_getElem inside]
    by_cases here : first = cell
    · simp only [here, if_true, beq_self_eq_true, Option.map_some, Option.getD_some]
      omega
    · simp [here]

theorem size_foldl (names : List CellId) :
    ∀ counts : Array Nat,
      (names.foldl (fun counts cell => counts.modify cell (· + 1)) counts).size = counts.size := by
  induction names with
  | nil =>
    intro counts
    rfl
  | cons first rest inductionHypothesis =>
    intro counts
    rw [List.foldl_cons, inductionHypothesis, Array.size_modify]

theorem namings_eq_foldl (world : World) :
    world.namings = world.names.foldl (fun counts cell => counts.modify cell (· + 1))
      (Array.replicate world.store.cells.size 0) := by
  unfold namings names Store.namings
  rw [List.foldl_append, List.foldl_flatMap, ← Array.foldl_toList]
  congr 1
  funext counts cell
  cases cell <;> rfl

theorem namings_isTally (world : World) :
    IsTally world.store world.names (world.namings,
      (List.range world.store.cells.size).filter fun cell =>
        world.namings[cell]?.getD 0 == 0 && world.store.isLive cell) := by
  have size : world.namings.size = world.store.cells.size := by
    rw [namings_eq_foldl, size_foldl, Array.size_replicate]
  have count : ∀ cell < world.store.cells.size,
      world.namings[cell]?.getD 0 = world.names.count cell := by
    intro cell inside
    rw [namings_eq_foldl, count_foldl _ _ _ (by rwa [Array.size_replicate]),
      Array.getElem?_replicate, if_pos inside, Option.getD_some, Nat.zero_add]
  refine ⟨size, count, List.nodup_range.filter _, ?_⟩
  intro cell
  rw [List.mem_filter, List.mem_range, Bool.and_eq_true, beq_iff_eq]
  constructor
  · rintro ⟨inside, zero, living⟩
    rw [count cell inside] at zero
    exact ⟨living, List.count_eq_zero.mp zero⟩
  · rintro ⟨living, unnamed⟩
    have inside := lt_size_of_isLive living
    refine ⟨inside, ?_, living⟩
    rw [count cell inside]
    exact List.count_eq_zero.mpr unnamed

/-- With a step for every living cell, all cells without a name are buried. -/
theorem reapFrom_spec : ∀ {steps dying counts} {world : World},
    IsTally world.store world.names (counts, dying) → world.store.population ≤ steps →
      Burials world (reapFrom steps dying counts world) ∧
        (reapFrom steps dying counts world).IsSettled := by
  intro steps
  induction steps with
  | zero =>
    intro dying counts world _ enough
    have settled : world.IsSettled := fun cell living => by
      obtain ⟨contents, found⟩ := Store.isLive_iff.mp living
      rw [Store.population_remove found] at enough
      omega
    exact ⟨.refl, settled⟩
  | succ steps inductionHypothesis =>
    intro dying counts world tally enough
    cases dying with
    | nil =>
      have settled : world.IsSettled := fun cell living => by
        by_contra unnamed
        exact nomatch (tally.dying cell).mpr ⟨living, unnamed⟩
      exact ⟨.refl, settled⟩
    | cons cell rest =>
      obtain ⟨living, unnamed⟩ := (tally.dying cell).mp List.mem_cons_self
      obtain ⟨contents, found⟩ := Store.isLive_iff.mp living
      have after := tally.bury found
      rw [Store.population_remove found, ← store_bury found] at enough
      obtain ⟨burials, settled⟩ := inductionHypothesis after (Nat.le_of_succ_le_succ enough)
      unfold reapFrom
      rw [found]
      exact ⟨.head (.bury found unnamed) burials, settled⟩

/-- Reaping buries living cells that nothing names, until every living cell has a name. -/
theorem reap_spec (world : World) : Burials world world.reap ∧ world.reap.IsSettled :=
  reapFrom_spec world.namings_isTally (Store.population_le_size _)

/-- Where every living cell has a name, reaping does nothing. -/
theorem IsSettled.reap_eq {world : World} (settled : world.IsSettled) : world.reap = world := by
  have none_dying : (List.range world.store.cells.size).filter (fun cell =>
      world.namings[cell]?.getD 0 == 0 && world.store.isLive cell) = [] := by
    refine List.eq_nil_iff_forall_not_mem.mpr fun cell dying => ?_
    obtain ⟨living, unnamed⟩ := (world.namings_isTally.dying cell).mp dying
    exact unnamed (settled cell living)
  unfold reap
  dsimp only
  rw [none_dying]
  cases world.store.cells.size <;> rfl

/-! ### Changes that no burial sees -/

/-- The change leaves cells and their names alone, and may be made before a burial or after it. -/
structure SparesCells (change : World → World) : Prop where
  store : ∀ world, (change world).store = world.store
  anchors : ∀ world, (change world).anchors = world.anchors
  bury : ∀ world cell, (change world).bury cell = change (world.bury cell)

namespace SparesCells

variable {change : World → World}

theorem reapFrom (spares : SparesCells change) (steps : Nat) (dying : List CellId)
    (counts : Array Nat) (world : World) :
    reapFrom steps dying counts (change world) = change (reapFrom steps dying counts world) := by
  induction steps generalizing dying counts world with
  | zero => rfl
  | succ steps inductionHypothesis =>
    cases dying with
    | nil => rfl
    | cons cell rest =>
      unfold World.reapFrom
      dsimp only
      rw [spares.bury, spares.store, spares.store]
      exact inductionHypothesis _ _ _

/-- The same cells die. -/
theorem reap (spares : SparesCells change) (world : World) :
    (change world).reap = change world.reap := by
  have namings : (change world).namings = world.namings := by
    rw [namings_eq_foldl, namings_eq_foldl]
    unfold names
    rw [spares.anchors, spares.store]
  unfold World.reap
  rw [namings, spares.store]
  exact spares.reapFrom _ _ _ world

/-- A change of an engine in anything but its tickets and what it keeps alive. -/
theorem modifyEngine (engine : EngineId) {change : Engine → Engine}
    (cells : ∀ state, (change state).cells = state.cells)
    (tickets : ∀ state cell, change { state with cache := state.cache.release cell } =
      { change state with cache := (change state).cache.release cell }) :
    SparesCells (·.modifyEngine engine change) where
  store _ := rfl
  anchors _ := anchors_modifyEngine cells
  bury world cell := by
    cases found : world.store.get? cell with
    | none =>
      unfold World.bury
      rw [show (world.modifyEngine engine change).store = world.store from rfl, found]
    | some contents =>
      let buried : World :=
        { world with store := world.store.remove cell, heap := world.heap.died contents }
      have left : (world.modifyEngine engine change).bury cell =
          (buried.modifyEngine engine change).leaveTicket cell contents := bury_of_get? found
      rw [left, bury_of_get? found]
      cases contents with
      | proxy proxy => exact modifyEngine_comm fun _ => (tickets · cell)
      | _ => rfl

end SparesCells

end World

end ScriptBridge
