/-
This file follows a failure outwards through a chain of faults. Host code that
calls an engine passes on what fails there, and the engine that called the host
code adds one layer; a call into another engine adds one only to an interrupt that
was not asked of the caller. Neither touches the bottom of the chain: its text is
the text of every layer, and a host error that is there stays the one to be found.
-/

import ScriptBridge.Proofs.Crossings
import ScriptBridge.Proofs.Interrupts

namespace ScriptBridge

open Run Bridge Script

/-! ### Chains -/

namespace ScriptError

/-- The error is a fault whose chain ends in a host error. -/
inductive EndsIn : ScriptError → HostError → Prop
  | host (bottom : HostError) : EndsIn (.execution (.host bottom)) bottom
  | nested {error : ScriptError} {bottom : HostError} (inner : EndsIn error bottom) :
      EndsIn (.execution (.nested error)) bottom

/-- The number of layers of the error's chain, the failure at its bottom included. -/
def layers : ScriptError → Nat
  | .execution cause => cause.depth
  | _ => 1

/-- The error with host code around it that passes it on to the engine that called it. -/
def throughHost (error : ScriptError) (ownInterrupt : Bool) : ScriptError :=
  (HostError.nested error).toScriptError ownInterrupt

variable {error : ScriptError} {bottom : HostError}

theorem endsIn_nested_iff : (execution (.nested error)).EndsIn bottom ↔ error.EndsIn bottom := by
  constructor
  · rintro ⟨⟩
    assumption
  · exact .nested

theorem layers_nested (error : ScriptError) :
    (execution (.nested error)).layers = 1 + error.layers := by
  cases error <;> rfl

/-- What the search for a host error finds is the end of the chain. -/
theorem hostError?_eq_some_iff {cause : FaultCause} :
    cause.hostError? = some bottom ↔ (execution cause).EndsIn bottom := by
  fun_induction FaultCause.hostError? cause with
  | case1 error =>
    constructor
    · rintro ⟨⟩
      exact .host bottom
    · rintro ⟨⟩
      rfl
  | case2 cause inductionHypothesis => rw [inductionHypothesis, endsIn_nested_iff]
  | case3 error plain =>
    rw [endsIn_nested_iff]
    constructor
    · rintro ⟨⟩
    · rintro (_ | _) <;> exact absurd rfl (plain _)

end ScriptError

/-! ### Bottoms -/

/-- An error on its way out is another with so many layers around it: its text and the end of its
chain are still those of the other. -/
structure ScriptError.Surrounds (outer : ScriptError) (count : Nat) (error : ScriptError) :
    Prop where
  innermost : outer.innermost = error.innermost
  layers : outer.layers = count + error.layers
  endsIn : ∀ bottom, outer.EndsIn bottom ↔ error.EndsIn bottom

namespace ScriptError.Surrounds

variable {outer middle error : ScriptError} {more count : Nat}

theorem refl (error : ScriptError) : error.Surrounds 0 error where
  innermost := rfl
  layers := (Nat.zero_add _).symm
  endsIn _ := Iff.rfl

theorem trans (first : outer.Surrounds more middle) (second : middle.Surrounds count error) :
    outer.Surrounds (more + count) error where
  innermost := first.innermost.trans second.innermost
  layers := by rw [first.layers, second.layers, Nat.add_assoc]
  endsIn bottom := (first.endsIn bottom).trans (second.endsIn bottom)

/-- A fault that nests an error is one layer around it. -/
theorem nested (error : ScriptError) : (execution (.nested error)).Surrounds 1 error where
  innermost := rfl
  layers := layers_nested error
  endsIn _ := endsIn_nested_iff

end ScriptError.Surrounds

section Crossing

variable {error : ScriptError}

/-- Whoever is asked to stop, an error that is no interrupt is nested once by host code. -/
theorem throughHost_of_plain (plain : error.isInterrupt = false) (ownInterrupt : Bool) :
    error.throughHost ownInterrupt = .execution (.nested error) := by
  unfold ScriptError.throughHost HostError.toScriptError
  dsimp only
  rw [plain]
  rfl

/-- Passing through host code time and again nests an error as often, whatever is asked of the
engines meanwhile. -/
theorem foldl_throughHost_surrounds (plain : error.isInterrupt = false) (asked : List Bool) :
    (asked.foldl ScriptError.throughHost error).Surrounds asked.length error := by
  induction asked generalizing error with
  | nil => exact .refl error
  | cons own rest inductionHypothesis =>
    rw [List.foldl_cons, throughHost_of_plain plain own]
    exact (inductionHypothesis rfl).trans (.nested error)

/-- What passed through host code at least once is a fault. -/
theorem foldl_throughHost_eq_execution (plain : error.isInterrupt = false) {asked : List Bool}
    (crossed : asked ≠ []) :
    ∃ cause, asked.foldl ScriptError.throughHost error = .execution cause := by
  induction asked generalizing error with
  | nil => exact absurd rfl crossed
  | cons own rest inductionHypothesis =>
    rw [List.foldl_cons, throughHost_of_plain plain own]
    by_cases last : rest = []
    · rw [last]
      exact ⟨_, rfl⟩
    · exact inductionHypothesis rfl last

/-- A call into another engine changes an error only by a layer around it. -/
theorem foreignFailure_surrounds (caller : EngineId) (world : World) (error : ScriptError) :
    ∃ count, (foreignFailure caller world error).Surrounds count error := by
  unfold foreignFailure
  split
  · exact ⟨1, .nested error⟩
  · exact ⟨0, .refl error⟩

end Crossing

/-! ### Calls that fail -/

namespace Layer

/-- The number of layers that add one to the chain of an error that is no interrupt. -/
def hosts : List Layer → Nat
  | [] => 0
  | .host _ :: rest => 1 + hosts rest
  | _ :: rest => hosts rest

variable {asked : EngineId → Bool} {error : ScriptError}

/-- What layers make of an error that is no interrupt has a layer for each host code among them. -/
theorem meetAll_surrounds (plain : error.isInterrupt = false) (layers : List Layer) :
    (meetAll asked layers error).isInterrupt = false ∧
      (meetAll asked layers error).Surrounds (hosts layers) error := by
  induction layers with
  | nil => exact ⟨plain, .refl error⟩
  | cons layer rest inductionHypothesis =>
    obtain ⟨still, inside⟩ := inductionHypothesis
    refine ⟨meet_isInterrupt still, ?_⟩
    cases layer with
    | host engine =>
      show ((meetAll asked rest error).throughHost (asked engine)).Surrounds _ _
      rw [throughHost_of_plain still]
      exact (ScriptError.Surrounds.nested _).trans inside
    | foreign engine =>
      show (if (meetAll asked rest error).isInterrupt && !asked engine then _ else
        meetAll asked rest error).Surrounds _ _
      rw [still, Bool.false_and, if_neg Bool.false_ne_true]
      exact inside
    | _ => exact inside

end Layer

/-- A failure that goes out through frames, host code and other engines comes out with its text and
the end of its chain, and with one more layer for each host code that it passed. -/
theorem wrap_fails_surrounding {world deep after : World} {layers : List Layer}
    {inside : ScriptRun Script.Value} {error : ScriptError} (inwards : Descends world layers deep)
    (fails : inside.outcome deep = (.error (.raised error), after))
    (balanced : deep.KeepsStacks after) (plain : error.isInterrupt = false)
    (unhandled : ∀ layer ∈ layers, layer.isHandler = false) :
    ∃ outer last, (Layer.wrap layers inside).outcome world = (.error (.raised outer), last) ∧
      outer.Surrounds (Layer.hosts layers) error := by
  have unwinds : Layer.Unwinds after.asked layers error := by
    rintro outer handler rest rfl
    exact nomatch unhandled (.attempt handler) (List.mem_append_right _ List.mem_cons_self)
  obtain ⟨last, failed, -⟩ := wrap_fails inwards fails balanced unwinds
  exact ⟨_, last, failed, (Layer.meetAll_surrounds plain layers).2⟩

/-- A frame that enters fails as its body does, whatever the body leaves of the frames. -/
theorem frame_raises {Result : Type} [HoldsCells Result] {world next later : World}
    {engine : EngineId} {kind : FrameKind} {body : ScriptRun Result} {error : ScriptError}
    (enters : world.Enters engine kind next)
    (fails : body.outcome next = (.error (.raised error), later)) :
    ∃ last, (frame engine kind body).outcome world = (.error (.raised error), last) := by
  obtain ⟨-, entered, enters, unasked, rfl⟩ := enters
  have ran := polledBody_raises unasked fails
  unfold frame
  rcases leaves : (World.session { later with held := world.held } engine).leave
      (some error) with ⟨left, _ | owed⟩
  · exact ⟨_, outcome_frameWith_nested enters ran leaves⟩
  · have quiet : (scope (do
        holdCells (outcomeCells (.error error : Except ScriptError Result))
        settleEngine engine owed)).IsQuiet :=
      .scope (.bind (.holdCells _) fun _ => settleEngine_isQuiet engine owed)
    obtain ⟨⟨⟩, last, idled, -⟩ := quiet (World.withSession _ engine left)
    exact ⟨last, outcome_frameWith_outermost enters ran leaves idled⟩

section Foreign

variable {calls : Calls} {world next between after : World} {engine : EngineId} {cell : CellId}
  {arguments own : List Script.Value} {error : ScriptError}

/-- A call of a function of another engine fails with what the call on that engine fails with, as
the caller meets it. -/
theorem callFunction_foreign_raises (foreign : (world.store.function cell).engine ≠ engine)
    (alive : (world.engine (world.store.function cell).engine).isDisposed = false)
    (enters : (world.holding (cell :: arguments.flatMap Script.Value.cells)).Enters engine .foreign
      next)
    (adopted : (adoptAll (world.store.function cell).engine arguments).outcome next =
      (.ok own, between))
    (fails : (calls.callFunction (world.store.function cell).engine cell own).outcome between =
      (.error (.raised error), after)) :
    ∃ last, (callFunction calls engine cell arguments).outcome world =
      (.error (.raised (foreignFailure engine after error)), last) := by
  have inForeign : (do
      let own ← adoptAll (world.store.function cell).engine arguments
      mapFailure (foreignFailure engine)
        (calls.callFunction (world.store.function cell).engine cell own) :
      ScriptRun Script.Value).outcome next =
        (.error (.raised (foreignFailure engine after error)), after) := by
    rw [outcome_bind_of_ok adopted, outcome_mapFailure, fails]
  obtain ⟨last, failed⟩ := frame_raises enters inForeign
  have owned : (requireOwner (world.store.function cell)).outcome
      (world.holding (cell :: arguments.flatMap Script.Value.cells)) =
        (.ok (), world.holding (cell :: arguments.flatMap Script.Value.cells)) := by
    unfold requireOwner
    rw [outcome_bind_of_ok (outcome_engine _ _), World.holding_engine, alive]
    rfl
  have failedInside : (callForeign calls engine (world.store.function cell) cell arguments).outcome
      (world.holding (cell :: arguments.flatMap Script.Value.cells)) =
        (.error (.raised (foreignFailure engine after error)), last) := by
    unfold callForeign
    rw [outcome_bind_of_ok owned]
    exact outcome_bind_of_error (outcome_bind_of_error failed)
  refine ⟨{ last with held := world.held }, ?_⟩
  rw [outcome_callFunction_of_foreign foreign, outcome_scope,
    outcome_bind_of_ok (outcome_holdCells _ _), failedInside]

end Foreign

/-! ### The law of chains -/

/-- An error that is no interrupt and passes through host code any number of times, whatever is asked
of the engines meanwhile, is a fault that handlers see: its text is the innermost of the error, it
has one layer for each time, and the host error it leads to is the one the error leads to, if any.
What a call into another engine fails with has the innermost text of what failed there. -/
theorem chains_keep_their_bottom :
    (∀ error : ScriptError, error.isInterrupt = false → ∀ asked : List Bool, asked ≠ [] →
      ∃ cause, asked.foldl ScriptError.throughHost error = .execution cause ∧
        (ScriptError.execution cause).isCatchable = true ∧ cause.message = error.innermost ∧
        cause.depth = asked.length + error.layers ∧
        ∀ bottom, cause.hostError? = some bottom ↔ error.EndsIn bottom) ∧
    ∀ (calls : Calls) (world next between after : World) (engine : EngineId) (cell : CellId)
      (arguments own : List Script.Value) (error : ScriptError),
      (world.store.function cell).engine ≠ engine →
      (world.engine (world.store.function cell).engine).isDisposed = false →
      (world.holding (cell :: arguments.flatMap Script.Value.cells)).Enters engine .foreign next →
      (adoptAll (world.store.function cell).engine arguments).outcome next = (.ok own, between) →
      (calls.callFunction (world.store.function cell).engine cell own).outcome between =
        (.error (.raised error), after) →
      ∃ outer last, (callFunction calls engine cell arguments).outcome world =
        (.error (.raised outer), last) ∧ outer.innermost = error.innermost := by
  constructor
  · intro error plain asked crossed
    have surrounds := foldl_throughHost_surrounds plain asked
    obtain ⟨cause, fault⟩ := foldl_throughHost_eq_execution plain crossed
    rw [fault] at surrounds
    exact ⟨cause, fault, rfl, surrounds.innermost, surrounds.layers, fun bottom =>
      ScriptError.hostError?_eq_some_iff.trans (surrounds.endsIn bottom)⟩
  · intro calls world next between after engine cell arguments own error foreign alive enters
      adopted fails
    obtain ⟨last, failed⟩ := callFunction_foreign_raises foreign alive enters adopted fails
    obtain ⟨count, surrounds⟩ := foreignFailure_surrounds engine after error
    exact ⟨_, last, failed, surrounds.innermost⟩

/-- A function of the first engine that throws. -/
def throwing : World :=
  { twoEngines with
    store := { cells := #[
      some (.function ⟨"throwing", 0, .script "A", .raise (.string "boom")⟩)] } }

/-- A failure of host code that passed through two more engines is three layers deep; what the second
engine meets when the first one's function throws says what was thrown. -/
theorem chains_keep_their_bottom_of_disk_full :
    (∃ cause, [false, true].foldl ScriptError.throughHost
        (.execution (.host (.exception "Exception" "disk full" none))) = .execution cause ∧
      cause.message = "disk full" ∧ cause.depth = 3 ∧
        cause.hostError? = some (.exception "Exception" "disk full" none)) ∧
    ∃ outer last, (callFunction (startWithin 2) 1 0 []).outcome throwing =
      (.error (.raised outer), last) ∧ outer.innermost = "boom" := by
  obtain ⟨onChains, onCalls⟩ := chains_keep_their_bottom
  constructor
  · obtain ⟨cause, fault, -, text, depth, ends⟩ :=
      onChains (.execution (.host (.exception "Exception" "disk full" none))) rfl [false, true]
        (List.cons_ne_nil _ _)
    exact ⟨cause, fault, text, depth, (ends _).mpr (.host _)⟩
  · have enters : (throwing.holding [0]).Enters 1 .foreign
        ((throwing.holding [0]).withSession 1 (outermostOf .foreign)) :=
      ⟨by decide, _, rfl, rfl, rfl⟩
    exact onCalls _ _ _ _ _ 1 0 [] [] (.fault "Error" "boom" (some "A") (some (.string "boom")))
      (by decide) rfl enters rfl rfl

end ScriptBridge
