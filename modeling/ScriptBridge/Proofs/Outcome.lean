/-
This file opens runs. The outcome of a run in a world is its value or failure
together with the world it leaves; each way of making a run out of others has
one equation that says what its outcome is.
-/

import ScriptBridge.Run

namespace ScriptBridge

/-! ### Cells in use -/

namespace World

@[simp]
theorem holding_store (world : World) (cells : List CellId) :
    (world.holding cells).store = world.store := rfl

@[simp]
theorem holding_engine (world : World) (cells : List CellId) (engine : EngineId) :
    (world.holding cells).engine engine = world.engine engine := rfl

theorem mem_held_holding {world : World} {cells : List CellId} {cell : CellId} :
    cell ∈ (world.holding cells).held ↔ cell ∈ cells ∨ cell ∈ world.held := by
  show cell ∈ cells.foldr List.insert world.held ↔ _
  induction cells with
  | nil => simp
  | cons first rest inductionHypothesis =>
    rw [List.foldr_cons, List.mem_insert_iff, inductionHypothesis, List.mem_cons, or_assoc]

/-- What is in use already does not have to be noted. -/
theorem holding_eq_self {world : World} {cells : List CellId}
    (inUse : ∀ cell ∈ cells, cell ∈ world.held) : world.holding cells = world := by
  have same : cells.foldr List.insert world.held = world.held := by
    induction cells with
    | nil => rfl
    | cons first rest inductionHypothesis =>
      rw [List.foldr_cons,
        inductionHypothesis fun cell member => inUse cell (List.mem_cons_of_mem first member),
        List.insert_of_mem (inUse first List.mem_cons_self)]
  show { world with held := cells.foldr List.insert world.held } = world
  rw [same]

/-- An outcome with the cells in use that were so before. -/
def endScope {Result : Type} (world : World) (outcome : Result × World) : Result × World :=
  (outcome.1, { outcome.2 with held := world.held })

end World

namespace Run

variable {Failure Result : Type}

/-- What a run comes to in a world, and the world it leaves. -/
def outcome (run : Run Failure Result) (world : World) :
    Except (Halt Failure) Result × World := run world

/-! ### Plain runs -/

@[simp]
theorem outcome_pure (result : Result) (world : World) :
    (pure result : Run Failure Result).outcome world = (.ok result, world) := rfl

theorem outcome_bind {Next : Type} (run : Run Failure Result) (next : Result → Run Failure Next)
    (world : World) :
    (run >>= next).outcome world =
      match run.outcome world with
      | (.ok result, after) => (next result).outcome after
      | (.error halt, after) => (.error halt, after) := by
  show (match run.outcome world with
    | (result, after) => ExceptT.bindCont next result after) = _
  rcases run.outcome world with ⟨halt | result, after⟩
  · rfl
  · rfl

/-- What follows a run that has a value goes on from the world it left. -/
theorem outcome_bind_of_ok {Next : Type} {run : Run Failure Result}
    {next : Result → Run Failure Next} {world after : World} {result : Result}
    (ran : run.outcome world = (.ok result, after)) :
    (run >>= next).outcome world = (next result).outcome after := by
  rw [outcome_bind, ran]

/-- Nothing follows a run that fails. -/
theorem outcome_bind_of_error {Next : Type} {run : Run Failure Result}
    {next : Result → Run Failure Next} {world after : World} {halt : Halt Failure}
    (ran : run.outcome world = (.error halt, after)) :
    (run >>= next).outcome world = (.error halt, after) := by
  rw [outcome_bind, ran]

/-- Only what follows a value, from the world it comes with, matters. -/
theorem outcome_bind_congr {Next : Type} {run : Run Failure Result}
    {next other : Result → Run Failure Next} {world : World}
    (same : ∀ result after, run.outcome world = (.ok result, after) →
      (next result).outcome after = (other result).outcome after) :
    (run >>= next).outcome world = (run >>= other).outcome world := by
  rw [outcome_bind, outcome_bind]
  rcases ran : run.outcome world with ⟨halt | result, after⟩
  · rfl
  · exact same result after ran

/-- What follows goes on alike from runs that come to the same. -/
theorem outcome_bind_of_eq {Next : Type} {run other : Run Failure Result} {first second : World}
    (same : run.outcome first = other.outcome second) (next : Result → Run Failure Next) :
    (run >>= next).outcome first = (other >>= next).outcome second := by
  rw [outcome_bind, outcome_bind, same]

/-- A run made of two has a value only through a value of the first. -/
theorem outcome_bind_eq_ok {Next : Type} {run : Run Failure Result}
    {next : Result → Run Failure Next} {world after : World} {result : Next} :
    (run >>= next).outcome world = (.ok result, after) ↔
      ∃ first between, run.outcome world = (.ok first, between) ∧
        (next first).outcome between = (.ok result, after) := by
  rw [outcome_bind]
  rcases ran : run.outcome world with ⟨halt | first, between⟩
  · constructor
    · rintro ⟨⟩
    · rintro ⟨_, _, ⟨⟩, _⟩
  · constructor
    · intro rest
      exact ⟨first, between, rfl, rest⟩
    · rintro ⟨_, _, ⟨⟩, rest⟩
      exact rest

@[simp]
theorem outcome_raise (error : Failure) (world : World) :
    (raise error : Run Failure Result).outcome world = (.error (.raised error), world) := rfl

@[simp]
theorem outcome_observe (part : World → Result) (world : World) :
    (observe part : Run Failure Result).outcome world = (.ok (part world), world) := rfl

@[simp]
theorem outcome_update (change : World → World) (world : World) :
    (update change : Run Failure Unit).outcome world = (.ok (), change world) := rfl

@[simp]
theorem outcome_readStore (part : Store → Result) (world : World) :
    (readStore part : Run Failure Result).outcome world = (.ok (part world.store), world) := rfl

@[simp]
theorem outcome_types (world : World) :
    (types : Run Failure Host.TypeTable).outcome world = (.ok world.store.types, world) := rfl

@[simp]
theorem outcome_ofExcept_ok (result : Result) (world : World) :
    (ofExcept (.ok result) : Run Failure Result).outcome world = (.ok result, world) := rfl

@[simp]
theorem outcome_ofExcept_error (error : Failure) (world : World) :
    (ofExcept (.error error) : Run Failure Result).outcome world =
      (.error (.raised error), world) := rfl

/-! ### Runs seen another way -/

theorem outcome_settle {Other : Type} (run : Run Failure Result) (world : World) :
    (run.settle : Run Other (Except Failure Result)).outcome world =
      match run.outcome world with
      | (.ok result, after) => (.ok (.ok result), after)
      | (.error (.raised error), after) => (.ok (.error error), after)
      | (.error .exhausted, after) => (.error .exhausted, after) := rfl

/-- A settled run has the value of the run as its value. -/
theorem outcome_settle_eq_ok {Other : Type} {run : Run Failure Result} {world after : World}
    {result : Result} :
    (run.settle : Run Other (Except Failure Result)).outcome world = (.ok (.ok result), after) ↔
      run.outcome world = (.ok result, after) := by
  rw [outcome_settle]
  rcases run.outcome world with ⟨(error | _) | made, left⟩ <;> simp

theorem outcome_settle_eq_error {Other : Type} {run : Run Failure Result} {world after : World}
    {error : Failure} :
    (run.settle : Run Other (Except Failure Result)).outcome world = (.ok (.error error), after) ↔
      run.outcome world = (.error (.raised error), after) := by
  rw [outcome_settle]
  rcases run.outcome world with ⟨(raised | _) | made, left⟩ <;> simp

/-- Runs that are settled fail only for depth. -/
theorem eq_exhausted_of_settle {Other : Type} {run : Run Failure Result} {world after : World}
    {halt : Halt Other}
    (ran : (run.settle : Run Other (Except Failure Result)).outcome world = (.error halt, after)) :
    halt = .exhausted := by
  rw [outcome_settle] at ran
  rcases went : run.outcome world with ⟨(error | _) | result, later⟩ <;>
    · rw [went] at ran
      cases ran
      try rfl

theorem outcome_mapFailure {Other : Type} (change : World → Failure → Other)
    (run : Run Failure Result) (world : World) :
    (run.mapFailure change).outcome world =
      match run.outcome world with
      | (.ok result, after) => (.ok result, after)
      | (.error (.raised error), after) => (.error (.raised (change after error)), after)
      | (.error .exhausted, after) => (.error .exhausted, after) := rfl

theorem outcome_mapFailure_eq_ok {Other : Type} {change : World → Failure → Other}
    {run : Run Failure Result} {world after : World} {result : Result} :
    (run.mapFailure change).outcome world = (.ok result, after) ↔
      run.outcome world = (.ok result, after) := by
  rw [outcome_mapFailure]
  rcases run.outcome world with ⟨(error | _) | given, left⟩
  · exact ⟨nofun, nofun⟩
  · exact ⟨nofun, nofun⟩
  · exact ⟨fun same => by cases same; rfl, fun same => by cases same; rfl⟩

/-! ### Scopes -/

theorem outcome_scope (run : Run Failure Result) (world : World) :
    (scope run).outcome world =
      ((run.outcome world).1, { (run.outcome world).2 with held := world.held }) := rfl

theorem outcome_scope_congr {run other : Run Failure Result} {world : World}
    (same : run.outcome world = other.outcome world) :
    (scope run).outcome world = (scope other).outcome world := by
  rw [outcome_scope, outcome_scope, same]

/-- What follows a scope without running belongs into it as well as after it. -/
theorem outcome_scope_bind_pure {Next : Type} (run : Run Failure Result) (next : Next)
    (world : World) :
    (scope (run >>= fun _ => pure next)).outcome world =
      (scope run >>= fun _ => pure next).outcome world := by
  rw [outcome_scope, outcome_bind, outcome_bind, outcome_scope]
  rcases run.outcome world with ⟨_ | _, after⟩ <;> rfl

@[simp]
theorem outcome_hold [HoldsCells Result] (result : Result) (world : World) :
    (hold result : Run Failure Result).outcome world =
      (.ok result, world.holding (HoldsCells.cells result)) := rfl

@[simp]
theorem outcome_holdCells (cells : List CellId) (world : World) :
    (holdCells cells : Run Failure Unit).outcome world = (.ok (), world.holding cells) := rfl

/-- A run whose result is in use has the value that the run has. -/
theorem outcome_held_eq_ok [HoldsCells Result] {run : Run Failure Result} {world after : World}
    {result : Result} :
    (held run).outcome world = (.ok result, after) ↔
      ∃ between, run.outcome world = (.ok result, between) ∧
        after = between.holding (HoldsCells.cells result) := by
  unfold held
  rw [outcome_bind_eq_ok]
  constructor
  · rintro ⟨_, between, ran, ⟨⟩⟩
    exact ⟨between, ran, rfl⟩
  · rintro ⟨between, ran, rfl⟩
    exact ⟨result, between, ran, rfl⟩

/-- A run that fails is noted as no more in use than it was. -/
theorem outcome_held_of_error [HoldsCells Result] {run : Run Failure Result} {world after : World}
    {halt : Halt Failure} (fails : run.outcome world = (.error halt, after)) :
    (held run).outcome world = (.error halt, after) :=
  outcome_bind_of_error fails

@[simp]
theorem outcome_create (contents : Cell) (world : World) :
    (create contents : Run Failure CellId).outcome world =
      (.ok world.store.cells.size,
        { (world.create contents).1 with held := world.store.cells.size :: world.held }) := rfl

end Run

end ScriptBridge
