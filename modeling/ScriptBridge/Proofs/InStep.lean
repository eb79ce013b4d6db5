/-
This file runs two runs beside each other from one world. They are in step if they come to
related values or fail in related ways and leave the same world. Runs that are made of
parts in step are in step themselves, whichever way they are made; what follows needs to
be in step only from where both came to.
-/

import ScriptBridge.Proofs.Outcome

namespace ScriptBridge.Run

variable {Failure TwinFailure Result Twin Next NextTwin : Type}

/-- The outcomes of two runs are related values, related failures, or both out of depth, in the same
world. -/
inductive InStep (values : Result → Twin → Prop) (failures : Failure → TwinFailure → Prop) :
    Except (Halt Failure) Result × World → Except (Halt TwinFailure) Twin × World → Prop
  | ok {result : Result} {twin : Twin} (same : values result twin) (world : World) :
      InStep values failures (.ok result, world) (.ok twin, world)
  | raised {failure : Failure} {twin : TwinFailure} (same : failures failure twin)
      (world : World) :
      InStep values failures (.error (.raised failure), world) (.error (.raised twin), world)
  | exhausted (world : World) :
      InStep values failures (.error .exhausted, world) (.error .exhausted, world)

/-- Settled outcomes: related values or related failures. -/
inductive Settled (values : Result → Twin → Prop) (failures : Failure → TwinFailure → Prop) :
    Except Failure Result → Except TwinFailure Twin → Prop
  | ok {result : Result} {twin : Twin} (same : values result twin) :
      Settled values failures (.ok result) (.ok twin)
  | error {failure : Failure} {twin : TwinFailure} (same : failures failure twin) :
      Settled values failures (.error failure) (.error twin)

namespace InStep

variable {values : Result → Twin → Prop} {goal : Next → NextTwin → Prop}
  {failures : Failure → TwinFailure → Prop} {world : World}

/-- An outcome is in step with itself. -/
theorem refl {failures : Failure → Failure → Prop} (alike : ∀ failure, failures failure failure)
    (outcome : Except (Halt Failure) Result × World) : InStep Eq failures outcome outcome := by
  rcases outcome with ⟨(failure | _) | result, after⟩
  · exact .raised (alike failure) after
  · exact .exhausted after
  · exact .ok rfl after

theorem bind {run : Run Failure Result} {twin : Run TwinFailure Twin}
    {next : Result → Run Failure Next} {nextTwin : Twin → Run TwinFailure NextTwin}
    (first : InStep values failures (run.outcome world) (twin.outcome world))
    (second : ∀ {result twinResult after}, run.outcome world = (.ok result, after) →
      values result twinResult →
        InStep goal failures ((next result).outcome after) ((nextTwin twinResult).outcome after)) :
    InStep goal failures ((run >>= next).outcome world) ((twin >>= nextTwin).outcome world) := by
  rcases ran : run.outcome world with ⟨ended, after⟩
  rcases ranTwin : twin.outcome world with ⟨endedTwin, afterTwin⟩
  rw [ran, ranTwin] at first
  cases first with
  | ok same =>
    rw [outcome_bind_of_ok ran, outcome_bind_of_ok ranTwin]
    exact second ran same
  | raised same =>
    rw [outcome_bind_of_error ran, outcome_bind_of_error ranTwin]
    exact .raised same after
  | exhausted =>
    rw [outcome_bind_of_error ran, outcome_bind_of_error ranTwin]
    exact .exhausted after

/-- Results that are noted as in use are still in step. -/
theorem held [HoldsCells Result] {run : Run Failure Result} {twin : Run TwinFailure Result}
    (inStep : InStep Eq failures (run.outcome world) (twin.outcome world)) :
    InStep Eq failures ((Run.held run).outcome world) ((Run.held twin).outcome world) :=
  inStep.bind fun {result _ after} _ same =>
    same ▸ .ok rfl (after.holding (HoldsCells.cells result))

theorem mapFailure {Other TwinOther : Type} {wider : Other → TwinOther → Prop}
    {run : Run Failure Result} {twin : Run TwinFailure Twin} {change : World → Failure → Other}
    {changeTwin : World → TwinFailure → TwinOther}
    (inStep : InStep values failures (run.outcome world) (twin.outcome world))
    (wide : ∀ {after failure other}, failures failure other →
      wider (change after failure) (changeTwin after other)) :
    InStep values wider ((run.mapFailure change).outcome world)
      ((twin.mapFailure changeTwin).outcome world) := by
  rw [outcome_mapFailure, outcome_mapFailure]
  generalize run.outcome world = outcome at inStep ⊢
  generalize twin.outcome world = other at inStep ⊢
  cases inStep with
  | ok same after => exact .ok same after
  | raised same after => exact .raised (wide same) after
  | exhausted after => exact .exhausted after

/-- Runs that are settled do not fail. -/
theorem settle {Other TwinOther : Type} {others : Other → TwinOther → Prop}
    {run : Run Failure Result} {twin : Run TwinFailure Twin}
    (inStep : InStep values failures (run.outcome world) (twin.outcome world)) :
    InStep (Settled values failures) others
      ((run.settle : Run Other (Except Failure Result)).outcome world)
      ((twin.settle : Run TwinOther (Except TwinFailure Twin)).outcome world) := by
  rw [outcome_settle, outcome_settle]
  generalize run.outcome world = outcome at inStep ⊢
  generalize twin.outcome world = other at inStep ⊢
  cases inStep with
  | ok same after => exact .ok (.ok same) after
  | raised same after => exact .ok (.error same) after
  | exhausted after => exact .exhausted after

end InStep

end ScriptBridge.Run
