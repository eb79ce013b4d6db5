/-
This file relates the world a run leaves to the world it started in. What one
step may do is a relation between worlds; a run whose parts keep to it keeps to
it as a whole, however it goes on and whether or not it fails, as long as the
relation composes and does not look at which cells are in use. A run that gets out
of depth leaves what it was about undone; what else it may do then is told apart.
-/

import ScriptBridge.Proofs.Outcome

namespace ScriptBridge

/-- A relation between worlds that runs can be followed along. -/
class RunRelation (relation : World → World → Prop) : Prop where
  refl : ∀ world, relation world world
  trans : ∀ {first second third}, relation first second → relation second third →
    relation first third
  held : ∀ world held, relation world { world with held }

/-- How runs may leave the world that they start in. This may depend on whether they get out of
depth. -/
abbrev Conduct := World → Bool → World → Prop

/-- The conduct that is the same whether or not a run gets out of depth. -/
@[reducible]
def Conduct.always (relation : World → World → Prop) : Conduct :=
  fun before _ after => relation before after

instance : Coe (World → World → Prop) Conduct := ⟨Conduct.always⟩

/-- A conduct that runs can be followed along. What follows a run goes on from where it did not get
out of depth. -/
class RunConduct (conduct : Conduct) : Prop where
  refl : ∀ world short, conduct world short world
  trans : ∀ {first second third short}, conduct first false second →
    conduct second short third → conduct first short third
  held : ∀ {before after short} held, conduct before short after →
    conduct before short { after with held }

instance {relation : World → World → Prop} [RunRelation relation] : RunConduct relation where
  refl world _ := RunRelation.refl world
  trans := RunRelation.trans
  held held related := RunRelation.trans related (RunRelation.held _ held)

/-- Does the run end for want of depth? -/
def Halt.isShort {Failure : Type} : Halt Failure → Bool
  | .raised _ => false
  | .exhausted => true

namespace Run

variable {Failure Other Result Next : Type} {conduct : Conduct}

/-- Has the run got out of depth? -/
def isShort : Except (Halt Failure) Result → Bool
  | .ok _ => false
  | .error halt => halt.isShort

/-- The world that the run leaves is related to the world it starts in, whichever that is. -/
def Leaves (conduct : Conduct) (run : Run Failure Result) : Prop :=
  ∀ world, conduct world (isShort (run.outcome world).1) (run.outcome world).2

/-- A value that the run has in some world. -/
def Yields (run : Run Failure Result) (result : Result) : Prop :=
  ∃ world after, run.outcome world = (.ok result, after)

/-- What comes last is what the last part yields. -/
theorem Yields.of_bind {run : Run Failure Result} {next : Result → Run Failure Next} {last : Next}
    (yields : (run >>= next).Yields last) : ∃ result, (next result).Yields last := by
  obtain ⟨world, after, ran⟩ := yields
  obtain ⟨result, between, -, went⟩ := outcome_bind_eq_ok.mp ran
  exact ⟨result, between, after, went⟩

theorem Yields.of_pure {result last : Result}
    (yields : (pure result : Run Failure Result).Yields last) : result = last := by
  obtain ⟨world, after, ran⟩ := yields
  cases ran
  rfl

theorem Yields.of_ofExcept {outcome : Except Failure Result} {last : Result}
    (yields : (ofExcept outcome).Yields last) : outcome = .ok last := by
  obtain ⟨world, after, ran⟩ := yields
  cases outcome <;> cases ran
  rfl

namespace Leaves

/-- The run keeps to the relation where it is known how it ends. -/
theorem along {run : Run Failure Result} (leaves : Leaves conduct run) {world after : World}
    {outcome : Except (Halt Failure) Result} (ran : run.outcome world = (outcome, after)) :
    conduct world (isShort outcome) after := by
  have keeps := leaves world
  rw [ran] at keeps
  exact keeps

/-- What keeps to a relation keeps to every wider one. -/
theorem mono {wider : Conduct} {run : Run Failure Result} (leaves : Leaves conduct run)
    (wide : ∀ {before short after}, conduct before short after → wider before short after) :
    Leaves wider run :=
  fun world => wide (leaves world)

variable [RunConduct conduct]

/-! ### Plain runs -/

theorem pure (result : Result) : Leaves conduct (Pure.pure result : Run Failure Result) :=
  fun world => RunConduct.refl world _

theorem raise (error : Failure) : Leaves conduct (Run.raise error : Run Failure Result) :=
  fun world => RunConduct.refl world _

theorem exhausted : Leaves conduct (Run.exhausted : Run Failure Result) :=
  fun world => RunConduct.refl world _

theorem observe (part : World → Result) :
    Leaves conduct (Run.observe part : Run Failure Result) :=
  fun world => RunConduct.refl world _

theorem readStore (part : Store → Result) :
    Leaves conduct (Run.readStore part : Run Failure Result) :=
  fun world => RunConduct.refl world _

theorem types : Leaves conduct (Run.types : Run Failure Host.TypeTable) :=
  fun world => RunConduct.refl world _

theorem engine (engine : EngineId) : Leaves conduct (Run.engine engine : Run Failure Engine) :=
  fun world => RunConduct.refl world _

theorem describe (value : Script.Value) :
    Leaves conduct (Run.describe value : Run Failure String) :=
  fun world => RunConduct.refl world _

theorem typeText (value : Host.Value) :
    Leaves conduct (Run.typeText value : Run Failure String) :=
  fun world => RunConduct.refl world _

theorem valueText (value : Host.Value) :
    Leaves conduct (Run.valueText value : Run Failure String) := by
  intro world
  unfold Run.valueText
  rw [outcome_bind_of_ok (outcome_readStore _ _)]
  cases world.store.text? value <;> exact RunConduct.refl world _

theorem ofExcept (outcome : Except Failure Result) : Leaves conduct (Run.ofExcept outcome) := by
  cases outcome with
  | ok result => exact pure result
  | error error => exact raise error

/-! ### Runs made of others -/

/-- What follows needs to keep to the relation only for values that the run before has. -/
theorem bind_of_yields {run : Run Failure Result} {next : Result → Run Failure Next}
    (first : Leaves conduct run) (second : ∀ result, run.Yields result →
      Leaves conduct (next result)) : Leaves conduct (run >>= next) := by
  intro world
  have before := first world
  rw [outcome_bind]
  rcases ran : run.outcome world with ⟨halt | result, after⟩
  · rw [ran] at before
    exact before
  · rw [ran] at before
    exact RunConduct.trans before (second result ⟨world, after, ran⟩ after)

theorem bind {run : Run Failure Result} {next : Result → Run Failure Next}
    (first : Leaves conduct run) (second : ∀ result, Leaves conduct (next result)) :
    Leaves conduct (run >>= next) :=
  bind_of_yields first fun result _ => second result

omit [RunConduct conduct] in
theorem settle {run : Run Failure Result} (leaves : Leaves conduct run) :
    Leaves conduct (run.settle : Run Other (Except Failure Result)) := by
  intro world
  have before := leaves world
  rw [outcome_settle]
  rcases ran : run.outcome world with ⟨(error | _) | result, after⟩ <;>
    · rw [ran] at before
      exact before

omit [RunConduct conduct] in
theorem mapFailure {change : World → Failure → Other} {run : Run Failure Result}
    (leaves : Leaves conduct run) : Leaves conduct (run.mapFailure change) := by
  intro world
  have before := leaves world
  rw [outcome_mapFailure]
  rcases ran : run.outcome world with ⟨(error | _) | result, after⟩ <;>
    · rw [ran] at before
      exact before

theorem scope {run : Run Failure Result} (leaves : Leaves conduct run) :
    Leaves conduct (Run.scope run) :=
  fun world => RunConduct.held _ (leaves world)

theorem hold [HoldsCells Result] (result : Result) :
    Leaves conduct (Run.hold result : Run Failure Result) :=
  fun world => RunConduct.held _ (RunConduct.refl world _)

theorem held [HoldsCells Result] {run : Run Failure Result} (leaves : Leaves conduct run) :
    Leaves conduct (Run.held run) :=
  bind leaves hold

theorem holdCells (cells : List CellId) :
    Leaves conduct (Run.holdCells cells : Run Failure Unit) :=
  fun world => RunConduct.held _ (RunConduct.refl world _)

theorem keep (cell : CellId) : Leaves conduct (Run.keep cell : Run Failure Unit) :=
  fun world => RunConduct.held _ (RunConduct.refl world _)

/-- A run in a scope of its own, with cells in use from its start. -/
theorem inScope (cells : List CellId) {run : Run Failure Result} (leaves : Leaves conduct run) :
    Leaves conduct (Run.scope (do Run.holdCells cells; run)) :=
  scope (bind (holdCells cells) fun _ => leaves)

theorem discard {run : Run Failure Result} (leaves : Leaves conduct run) :
    Leaves conduct (discard run) :=
  bind leaves fun _ => pure ()

theorem valueTexts (values : List Host.Value) :
    Leaves conduct (Run.valueTexts values : Run Failure (List String)) := by
  induction values with
  | nil => exact pure []
  | cons value rest inductionHypothesis =>
    exact bind (valueText value) fun _ => bind inductionHypothesis fun _ => pure _

end Leaves

end Run

end ScriptBridge
