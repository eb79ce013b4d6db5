/-
This file compares runs. Two runs agree if from worlds that differ in annotations
only they end alike, with related values or the same failure, and leave worlds that
again differ in annotations only. Runs made of parts that agree agree; one that reads
nothing but what is the same without annotations agrees with itself. Where that is
allowed, the first of the two may get out of depth instead.
-/

import ScriptBridge.Calls
import ScriptBridge.Proofs.Changes
import ScriptBridge.Proofs.Likeness

namespace ScriptBridge

open Host Binding

namespace Run

variable {Failure Other Result Next : Type} {Twin NextTwin : Type}

/-! ### Outcomes -/

/-- Runs end alike: with related values or with the same failure. -/
inductive EndAlike (related : Result → Twin → Prop) :
    Except (Halt Failure) Result → Except (Halt Failure) Twin → Prop
  | ok {result : Result} {twin : Twin} (same : related result twin) :
      EndAlike related (.ok result) (.ok twin)
  | error (halt : Halt Failure) : EndAlike related (.error halt) (.error halt)

/-- Outcomes agree: they end alike and leave worlds that are alike. Where the first may be cut
short, it may have got out of depth instead. -/
def Agree (free : Annotated) (cut : Prop) (related : Result → Twin → Prop)
    (outcome : Except (Halt Failure) Result × World)
    (twin : Except (Halt Failure) Twin × World) : Prop :=
  (cut ∧ outcome.1 = .error .exhausted) ∨
    (EndAlike related outcome.1 twin.1 ∧ outcome.2.Alike free twin.2)

/-- Runs agree: from worlds that are alike, their outcomes do. -/
def Agrees (free : Annotated) (cut : Prop) (related : Result → Twin → Prop)
    (run : Run Failure Result) (twin : Run Failure Twin) : Prop :=
  ∀ ⦃left right : World⦄, left.Alike free right →
    Agree free cut related (run.outcome left) (twin.outcome right)

/-- A run agrees with itself: it does not depend on annotations. -/
abbrev IsBlind (free : Annotated) (cut : Prop) (run : Run Failure Result) : Prop :=
  Agrees free cut Eq run run

variable {free : Annotated} {cut : Prop} {related : Result → Twin → Prop}
  {goal : Next → NextTwin → Prop}

namespace Agree

theorem of_ok {result : Result} {twin : Twin} {left right : World} (same : related result twin)
    (alike : left.Alike free right) :
    Agree free cut related ((.ok result, left) : Except (Halt Failure) Result × World)
      (.ok twin, right) :=
  .inr ⟨.ok same, alike⟩

theorem of_error (halt : Halt Failure) {left right : World} (alike : left.Alike free right) :
    Agree free cut related (.error halt, left) (.error halt, right) :=
  .inr ⟨.error halt, alike⟩

/-- What follows needs to agree only from where the first runs came to. -/
theorem bind {run : Run Failure Result} {twin : Run Failure Twin}
    {next : Result → Run Failure Next} {nextTwin : Twin → Run Failure NextTwin}
    {left right : World}
    (first : Agree free cut related (run.outcome left) (twin.outcome right))
    (second : ∀ {result resultTwin after afterTwin}, run.outcome left = (.ok result, after) →
      twin.outcome right = (.ok resultTwin, afterTwin) → related result resultTwin →
        after.Alike free afterTwin → Agree free cut goal ((next result).outcome after)
          ((nextTwin resultTwin).outcome afterTwin)) :
    Agree free cut goal ((run >>= next).outcome left) ((twin >>= nextTwin).outcome right) := by
  rcases ran : run.outcome left with ⟨ended, after⟩
  rcases ranTwin : twin.outcome right with ⟨endedTwin, afterTwin⟩
  rw [ran, ranTwin] at first
  rcases first with ⟨allowed, short⟩ | ⟨same, alike⟩
  · dsimp only at short
    rw [short] at ran
    rw [outcome_bind_of_error ran]
    exact .inl ⟨allowed, rfl⟩
  · dsimp only at same alike
    cases same with
    | error halt =>
      rw [outcome_bind_of_error ran, outcome_bind_of_error ranTwin]
      exact of_error halt alike
    | ok same =>
      rw [outcome_bind_of_ok ran, outcome_bind_of_ok ranTwin]
      exact second ran ranTwin same alike

/-- At the end of a scope the cells in use are those from before. -/
theorem scope {run : Run Failure Result} {twin : Run Failure Twin} {left right : World}
    (alike : left.Alike free right)
    (agree : Agree free cut related (run.outcome left) (twin.outcome right)) :
    Agree free cut related ((Run.scope run).outcome left) ((Run.scope twin).outcome right) := by
  rw [outcome_scope, outcome_scope]
  rcases agree with ⟨allowed, short⟩ | ⟨same, alikeAfter⟩
  · exact .inl ⟨allowed, short⟩
  · refine .inr ⟨same, ?_⟩
    dsimp only
    rw [alike.observe (·.held) fun _ => rfl]
    exact alikeAfter.commute (fun world => { world with held := right.held }) (fun _ => rfl)
      fun _ => rfl

end Agree

/-- Settled outcomes are alike: related values or the same failure. -/
inductive SettledAlike (related : Result → Twin → Prop) :
    Except Failure Result → Except Failure Twin → Prop
  | ok {result : Result} {twin : Twin} (same : related result twin) :
      SettledAlike related (.ok result) (.ok twin)
  | error (failure : Failure) : SettledAlike related (.error failure) (.error failure)

namespace Agrees

/-! ### Plain runs -/

theorem pure_of {result : Result} {twin : Twin} (same : related result twin) :
    Agrees free cut related (Pure.pure result : Run Failure Result) (Pure.pure twin) :=
  fun _ _ alike => .of_ok same alike

theorem pure (result : Result) : IsBlind free cut (Pure.pure result : Run Failure Result) :=
  pure_of rfl

theorem raise (error : Failure) :
    Agrees free cut related (Run.raise error : Run Failure Result) (Run.raise error) :=
  fun _ _ alike => .of_error _ alike

theorem observe {part : World → Result} (blind : ∀ world, part world.bare = part world) :
    IsBlind free cut (Run.observe part : Run Failure Result) :=
  fun _ _ alike => .of_ok (alike.observe part blind) alike

theorem readStore {part : Store → Result} (blind : ∀ store, part store.bare = part store) :
    IsBlind free cut (Run.readStore part : Run Failure Result) :=
  observe fun world => blind world.store

theorem engine (engine : EngineId) : IsBlind free cut (Run.engine engine : Run Failure Engine) :=
  observe fun _ => rfl

theorem describe (value : Script.Value) :
    IsBlind free cut (Run.describe value : Run Failure String) :=
  observe fun world => world.describe_bare value

theorem typeText (value : Host.Value) :
    IsBlind free cut (Run.typeText value : Run Failure String) :=
  readStore fun store => store.typeText_bare value

theorem exhausted : IsBlind free cut (Run.exhausted : Run Failure Result) :=
  fun _ _ alike => .of_error _ alike

theorem ofExcept (outcome : Except Failure Result) :
    IsBlind free cut (Run.ofExcept outcome) := by
  cases outcome with
  | ok result => exact pure result
  | error error => exact raise error

/-- Changes that differ in annotations only. -/
theorem update_of {change twin : World → World}
    (same : ∀ {left right : World}, left.bare = right.bare → (change left).bare = (twin right).bare)
    (types : ∀ world, (change world).store.types = world.store.types)
    (typesTwin : ∀ world, (twin world).store.types = world.store.types) :
    Agrees free cut Eq (Run.update change : Run Failure Unit) (Run.update twin) :=
  fun left right alike =>
    .of_ok rfl (alike.change (same alike.bare) (types left) (typesTwin right))

/-- A change that does not depend on annotations. -/
theorem update (change : World → World) (same : ∀ world, (change world).bare = change world.bare)
    (types : ∀ world, (change world).store.types = world.store.types) :
    IsBlind free cut (Run.update change : Run Failure Unit) :=
  fun _ _ alike => .of_ok rfl (alike.commute change same types)

theorem modifyStore (change : Store → Store)
    (same : ∀ store, (change store).bare = change store.bare)
    (types : ∀ store, (change store).types = store.types) :
    IsBlind free cut (Run.modifyStore change : Run Failure Unit) :=
  update _ (fun world => congrArg
    (fun store => { world with store, history := world.history.map MemberEvent.bare })
    (same world.store)) fun world => types world.store

theorem modifyEngine (engine : EngineId) (change : Engine → Engine) :
    IsBlind free cut (Run.modifyEngine engine change : Run Failure Unit) :=
  update (·.modifyEngine engine change) (fun _ => rfl) fun _ => rfl

theorem log (entry : LogEntry Shown) : IsBlind free cut (Run.log entry : Run Failure Unit) :=
  update (fun world => { world with log := world.log.push entry }) (fun _ => rfl) fun _ => rfl

/-- Events that differ in annotations only. -/
theorem note {event twin : MemberEvent} (same : event.bare = twin.bare) :
    Agrees free cut Eq (Run.note event : Run Failure Unit) (Run.note twin) := by
  refine update_of (fun {left right} bare => ?_) (fun _ => rfl) fun _ => rfl
  show { left.bare with history := event.bare :: left.bare.history } =
    { right.bare with history := twin.bare :: right.bare.history }
  rw [bare, same]

theorem reap : IsBlind free cut (Run.reap : Run Failure Unit) :=
  update _ World.reap_bare fun world => (World.reap_spec world).1.keeps.types

theorem create (contents : Cell) : IsBlind free cut (Run.create contents : Run Failure CellId) :=
  fun _ _ alike =>
    .of_ok (alike.observe (·.store.cells.size) fun _ => rfl) (alike.commute (fun world =>
      { (world.create contents).1 with held := world.store.cells.size :: world.held })
      (fun _ => rfl) fun _ => rfl)

theorem hold [HoldsCells Result] (result : Result) :
    IsBlind free cut (Run.hold result : Run Failure Result) :=
  fun _ _ alike =>
    .of_ok rfl (alike.commute (·.holding (HoldsCells.cells result)) (fun _ => rfl) fun _ => rfl)

theorem holdCells (cells : List CellId) :
    IsBlind free cut (Run.holdCells cells : Run Failure Unit) :=
  update (·.holding cells) (fun _ => rfl) fun _ => rfl

theorem keep (cell : CellId) : IsBlind free cut (Run.keep cell : Run Failure Unit) :=
  update (fun world => { world with held := cell :: world.held }) (fun _ => rfl) fun _ => rfl

/-! ### Runs made of others -/

/-- What follows needs to agree only for values that the first run before has. -/
theorem bind_of_yields {run : Run Failure Result} {twin : Run Failure Twin}
    {next : Result → Run Failure Next} {nextTwin : Twin → Run Failure NextTwin}
    (first : Agrees free cut related run twin)
    (second : ∀ {result resultTwin}, run.Yields result → related result resultTwin →
      Agrees free cut goal (next result) (nextTwin resultTwin)) :
    Agrees free cut goal (run >>= next) (twin >>= nextTwin) :=
  fun left _ alike => (first alike).bind fun {_ _ after _} ran _ same alike =>
    second ⟨left, after, ran⟩ same alike

theorem bind {run : Run Failure Result} {twin : Run Failure Twin}
    {next : Result → Run Failure Next} {nextTwin : Twin → Run Failure NextTwin}
    (first : Agrees free cut related run twin)
    (second : ∀ {result resultTwin}, related result resultTwin →
      Agrees free cut goal (next result) (nextTwin resultTwin)) :
    Agrees free cut goal (run >>= next) (twin >>= nextTwin) :=
  bind_of_yields first fun _ same => second same

/-- What follows is given the same value. -/
theorem bind_same {run twin : Run Failure Result} {next : Result → Run Failure Next}
    {nextTwin : Result → Run Failure NextTwin} (first : Agrees free cut Eq run twin)
    (second : ∀ result, Agrees free cut goal (next result) (nextTwin result)) :
    Agrees free cut goal (run >>= next) (twin >>= nextTwin) :=
  bind first fun {result _} same => same ▸ second result

/-- What follows a part of the world that annotations are in does not depend on them. -/
theorem bind_part {Part : Type} {part : World → Part} (bare : Part → Part)
    (stripped : ∀ world, part world.bare = bare (part world))
    {next : Part → Run Failure Next} {nextTwin : Part → Run Failure NextTwin}
    (blind : ∀ part, nextTwin (bare part) = nextTwin part)
    (second : ∀ part, Agrees free cut goal (next part) (nextTwin part)) :
    Agrees free cut goal (Run.observe part >>= next) (Run.observe part >>= nextTwin) := by
  intro left right alike
  have same : nextTwin (part right) = nextTwin (part left) := by
    rw [← blind, ← stripped, ← alike.bare, stripped, blind]
  show Agree free cut goal ((next (part left)).outcome left) ((nextTwin (part right)).outcome right)
  rw [same]
  exact second _ alike

theorem bind_types {next : Host.TypeTable → Run Failure Next}
    {nextTwin : Host.TypeTable → Run Failure NextTwin}
    (blind : ∀ table, nextTwin table.bare = nextTwin table)
    (second : ∀ table, Agrees free cut goal (next table) (nextTwin table)) :
    Agrees free cut goal (Run.types >>= next) (Run.types >>= nextTwin) :=
  bind_part Host.TypeTable.bare (fun _ => rfl) blind second

theorem bind_store {next : Store → Run Failure Next} {nextTwin : Store → Run Failure NextTwin}
    (blind : ∀ store, nextTwin store.bare = nextTwin store)
    (second : ∀ store, Agrees free cut goal (next store) (nextTwin store)) :
    Agrees free cut goal (Run.readStore id >>= next) (Run.readStore id >>= nextTwin) :=
  bind_part Store.bare (fun _ => rfl) blind second

theorem valueText (value : Host.Value) :
    IsBlind free cut (Run.valueText value : Run Failure String) := by
  refine .bind_same (.readStore fun store => store.text?_bare value) fun text => ?_
  cases text with
  | some text => exact .pure text
  | none => exact .exhausted

theorem valueTexts (values : List Host.Value) :
    IsBlind free cut (Run.valueTexts values : Run Failure (List String)) := by
  induction values with
  | nil => exact .pure []
  | cons value rest inductionHypothesis =>
    exact .bind_same (.valueText value) fun _ => .bind_same inductionHypothesis fun _ => .pure _

/-- Runs that agree are settled alike. -/
theorem settleAlike {run : Run Failure Result} {twin : Run Failure Twin}
    (agrees : Agrees free cut related run twin) :
    Agrees free cut (SettledAlike related)
      (run.settle : Run Other (Except Failure Result)) twin.settle := by
  intro left right alike
  have settled := agrees alike
  rw [outcome_settle, outcome_settle]
  generalize run.outcome left = outcome at settled ⊢
  generalize twin.outcome right = outcomeTwin at settled ⊢
  obtain ⟨ended, after⟩ := outcome
  obtain ⟨endedTwin, afterTwin⟩ := outcomeTwin
  rcases settled with ⟨allowed, short⟩ | ⟨same, alikeAfter⟩
  · cases short
    exact .inl ⟨allowed, rfl⟩
  · cases same with
    | ok same => exact .of_ok (.ok same) alikeAfter
    | error halt =>
      cases halt with
      | raised error => exact .of_ok (.error error) alikeAfter
      | exhausted => exact .of_error _ alikeAfter

theorem mono {wider : Result → Twin → Prop} {run : Run Failure Result} {twin : Run Failure Twin}
    (agrees : Agrees free cut related run twin)
    (wide : ∀ {result twin}, related result twin → wider result twin) :
    Agrees free cut wider run twin := by
  have widened {ended : Except (Halt Failure) Result} {endedTwin : Except (Halt Failure) Twin}
      (same : EndAlike related ended endedTwin) : EndAlike wider ended endedTwin := by
    cases same with
    | ok same => exact .ok (wide same)
    | error halt => exact .error halt
  exact fun _ _ alike =>
    (agrees alike).imp id fun ⟨same, alikeAfter⟩ => ⟨widened same, alikeAfter⟩

theorem settle {run twin : Run Failure Result} (agrees : Agrees free cut Eq run twin) :
    Agrees free cut Eq (run.settle : Run Other (Except Failure Result)) twin.settle :=
  agrees.settleAlike.mono fun settled => by
    cases settled with
    | ok same => rw [same]
    | error failure => rfl

theorem mapFailure {change : World → Failure → Other} {run : Run Failure Result}
    {twin : Run Failure Twin} (blind : ∀ world, change world.bare = change world)
    (agrees : Agrees free cut related run twin) :
    Agrees free cut related (run.mapFailure change) (twin.mapFailure change) := by
  intro left right alike
  have mapped := agrees alike
  rw [outcome_mapFailure, outcome_mapFailure]
  generalize run.outcome left = outcome at mapped ⊢
  generalize twin.outcome right = outcomeTwin at mapped ⊢
  obtain ⟨ended, after⟩ := outcome
  obtain ⟨endedTwin, afterTwin⟩ := outcomeTwin
  rcases mapped with ⟨allowed, short⟩ | ⟨same, alikeAfter⟩
  · cases short
    exact .inl ⟨allowed, rfl⟩
  · cases same with
    | ok same => exact .of_ok same alikeAfter
    | error halt =>
      cases halt with
      | raised error =>
        dsimp only at alikeAfter ⊢
        rw [alikeAfter.observe change blind]
        exact .of_error _ alikeAfter
      | exhausted => exact .of_error _ alikeAfter

theorem scope {run : Run Failure Result} {twin : Run Failure Twin}
    (agrees : Agrees free cut related run twin) :
    Agrees free cut related (Run.scope run) (Run.scope twin) :=
  fun _ _ alike => .scope alike (agrees alike)

theorem held [HoldsCells Result] {run twin : Run Failure Result}
    (agrees : Agrees free cut Eq run twin) :
    Agrees free cut Eq (Run.held run) (Run.held twin) :=
  bind_same agrees hold

/-- Runs in scopes of their own, with the same cells in use from their start. -/
theorem inScope (cells : List CellId) {run : Run Failure Result} {twin : Run Failure Twin}
    (agrees : Agrees free cut related run twin) :
    Agrees free cut related (Run.scope (do Run.holdCells cells; run))
      (Run.scope (do Run.holdCells cells; twin)) :=
  scope (bind_same (holdCells cells) fun _ => agrees)

theorem discard {run twin : Run Failure Result} (agrees : Agrees free cut Eq run twin) :
    Agrees free cut Eq (discard run) (discard twin) :=
  bind_same agrees fun _ => pure ()

end Agrees

end Run

/-! ### Calls -/

/-- What is started agrees, whatever it is. -/
structure Calls.Agree (free : Annotated) (cut : Prop) (calls twin : Calls) : Prop where
  callFunction : ∀ engine cell arguments, Run.Agrees free cut Eq
    (calls.callFunction engine cell arguments) (twin.callFunction engine cell arguments)
  callValue : ∀ engine callee arguments, Run.Agrees free cut Eq
    (calls.callValue engine callee arguments) (twin.callValue engine callee arguments)
  assignThrough : ∀ engine callee keys value, Run.Agrees free cut Eq
    (calls.assignThrough engine callee keys value) (twin.assignThrough engine callee keys value)
  toScript : ∀ engine value declared, Run.Agrees free cut Eq
    (calls.toScript engine value declared) (twin.toScript engine value declared)
  toText : ∀ engine value, Run.Agrees free cut Eq
    (calls.toText engine value) (twin.toText engine value)
  invokeDelegate : ∀ cell arguments, Run.Agrees free cut Eq
    (calls.invokeDelegate cell arguments) (twin.invokeDelegate cell arguments)
  evaluate : ∀ engine source, Run.Agrees free cut Eq
    (calls.evaluate engine source) (twin.evaluate engine source)
  importModule : ∀ engine specifier referrer, Run.Agrees free cut Eq
    (calls.importModule engine specifier referrer) (twin.importModule engine specifier referrer)

end ScriptBridge
