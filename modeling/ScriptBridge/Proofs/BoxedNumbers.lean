/-
This file passes numbers in boxes. A number and a proxy that boxes it, an integer in the
narrower of the two kinds that script integers count as and any other number as the
binary one it is, go through tables and converters of their own; the two tables give the
same rules and the two converters the same values. So a conversion of the one and of the
other is in step for every target, down through types that may be null, and with it
everything that is made of conversions: arguments passed by value or by reference,
collected or not, and the choice among overloads.
-/

import ScriptBridge.Proofs.Exactness
import ScriptBridge.Proofs.InStep
import ScriptBridge.Proofs.OverloadChoice
import ScriptBridge.Proofs.ParameterFilling

namespace ScriptBridge

open Run Host Bridge Binding Conversion Number

/-! ### Errors alike -/

/-- Two conversions fail alike: a value is out of range of the target, or a value does not convert
to the target, whatever it is called. -/
inductive ConversionError.Alike : ConversionError → ConversionError → Prop
  | overflow (value target : String) : Alike (.overflow value target) (.overflow value target)
  | incompatible (actual other target : String) :
      Alike (.incompatible actual target) (.incompatible other target)

theorem ConversionError.Alike.refl : ∀ error : ConversionError, error.Alike error
  | .overflow value target => .overflow value target
  | .incompatible actual target => .incompatible actual actual target

/-- Two candidates do not match for reasons alike. -/
inductive Binding.Mismatch.Alike : Mismatch → Mismatch → Prop
  | count : Alike .count .count
  | conversion {error other : ConversionError} (alike : error.Alike other) :
      Alike (.conversion error) (.conversion other)

theorem Binding.Mismatch.Alike.refl : ∀ mismatch : Mismatch, mismatch.Alike mismatch
  | .count => .count
  | .conversion error => .conversion (.refl error)

/-- Two operations fail alike: in the same way, or for an argument that does not convert. -/
inductive ScriptError.Alike : ScriptError → ScriptError → Prop
  | same (error : ScriptError) : Alike error error
  | conversion {error other : ConversionError} (alike : error.Alike other) :
      Alike (.argumentConversion error) (.argumentConversion other)

/-! ### Numbers and their boxes -/

/-- The value that boxes a number in its nominal kind: the narrower of two kinds for an integer. -/
inductive Host.Value.Restates : Script.Value → Value → Prop
  | int {number : Int64} {boxed : Integer} (kind : boxed.kind = scriptIntKind number.toInt)
      (value : boxed.value = number.toInt) : Restates (.int number) (.integer boxed)
  | double (number : Double) : Restates (.double number) (.double number)

/-- The argument is the number itself, or any other value, in place of what it is compared to; or
it is a proxy that boxes the number and can be reached. -/
inductive World.SameOrBoxed (world : World) : Script.Value → Script.Value → Prop
  | refl (argument : Script.Value) : SameOrBoxed world argument argument
  | boxed {number box : Script.Value} {host : Value} (restates : host.Restates number)
      (leads : world.Leads box host) : SameOrBoxed world number box

namespace Conversion

/-- The rules of a script integer are those of its kind. -/
theorem scriptIntRule_eq (value : Int) (target : Kind) :
    scriptIntRule value target = numericRule (scriptIntKind value) target := by
  unfold scriptIntRule scriptIntKind
  cases Kind.int32.contains value <;> cases target <;> rfl

theorem scriptDoubleRule_eq (target : Kind) :
    scriptDoubleRule target = numericRule .double target := by
  cases target <;> rfl

theorem isAllowed_scriptIntRule (value : Int) (target : Kind) :
    (scriptIntRule value target).isAllowed = true := by
  unfold scriptIntRule scriptIntKind
  cases Kind.int32.contains value <;> cases target <;> rfl

/-- A boxed binary number is converted as the number it is, by every rule that takes it. -/
theorem ofScalar_double (number : Double) {kind : Kind}
    (allowed : (scriptDoubleRule kind).isAllowed = true) :
    ofScalar (.double number) .double kind = ofDouble number kind := by
  cases kind <;> first | rfl | cases allowed

end Conversion

namespace Bridge

variable {engine : EngineId} {world : World} {number box : Script.Value} {host : Value}

theorem incompatible_inStep {Result : Type} (value other : Script.Value) (target : TypeRef) :
    InStep Eq ConversionError.Alike
      ((incompatible value target : ConversionRun Result).outcome world)
      ((incompatible other target : ConversionRun Result).outcome world) :=
  .raised (.incompatible _ _ _) world

/-- Numbers and their boxes reach numeric kinds by the same rules as the same values. -/
theorem toNumeric_inStep (restates : host.Restates number) (leads : world.Leads box host)
    (kind : Kind) :
    InStep Eq ConversionError.Alike ((toNumeric number none kind).outcome world)
      ((toNumeric box (some host) kind).outcome world) := by
  obtain ⟨cell, rfl, -⟩ := leads
  cases restates with
  | @int number boxed nominal value =>
    have same : toNumeric (.proxy cell) (some (.integer boxed)) kind =
        toNumeric (.int number) none kind := by
      unfold toNumeric
      dsimp only [Value.numericKind?]
      rw [ofScalar_integer, nominal, value, ← scriptIntRule_eq, isAllowed_scriptIntRule]
      rfl
    rw [same]
    exact .refl .refl _
  | double number =>
    unfold toNumeric
    dsimp only [Value.numericKind?]
    rw [← scriptDoubleRule_eq]
    cases allowed : (scriptDoubleRule kind).isAllowed with
    | true =>
      rw [ofScalar_double number allowed]
      exact .refl .refl _
    | false => exact .raised (.incompatible _ _ _) world

/-- An untyped target takes a number for what boxes it. -/
theorem outcome_toHostValue_of_number {Failure : Type} (restates : host.Restates number) :
    (toHostValue engine number : Run Failure Value).outcome world = (.ok host, world) := by
  cases restates with
  | @int number boxed nominal value =>
    have plain : plainInt number.toInt = .integer boxed := by
      unfold plainInt
      rw [← nominal, ← value, ofInt?_of_integral (isIntegral_kind boxed)]
      unfold Integer.ofInt?
      rw [dif_pos boxed.held]
      rfl
    show (pure (plainInt number.toInt) : Run Failure Value).outcome world = _
    rw [plain]
    rfl
  | double number => rfl

/-- A number is converted as what has nothing behind it. -/
theorem outcome_toHost_of_number (restates : host.Restates number) (target : TypeRef) :
    (toHost engine number target).outcome world =
      (match target with
        | .nullable inner => toHost engine number inner
        | .object | .dynamic => do
          return ⟨← toHostValue engine number, .widening, boxPenalty target⟩
        | .numeric kind => toNumeric number none kind
        | .named key => toNamed number none key
        | .array element =>
          toArray (fun item => toHost engine item element) number none element
        | .box inner => toBox number none inner
        | plain => toPlain number none plain).outcome world := by
  have given : number.isNullish = false := by cases restates <;> rfl
  have unproxied : ∀ cell, number ≠ .proxy cell := by cases restates <;> exact nofun
  exact outcome_toHost_of_unproxied given unproxied target

/-- For every target a number and its box are converted to the same, or fail alike. -/
theorem toHost_inStep (restates : host.Restates number) (leads : world.Leads box host)
    (target : TypeRef) :
    InStep Eq ConversionError.Alike ((toHost engine number target).outcome world)
      ((toHost engine box target).outcome world) := by
  have unheld : world.holding host.cells = world := by
    cases restates <;> rfl
  have untyped (penalty : Nat) :
      InStep Eq ConversionError.Alike
        ((do return ⟨← toHostValue engine number, .widening, penalty⟩ :
          ConversionRun Converted).outcome world)
        ((do return ⟨← toHostValue engine box, .widening, penalty⟩ :
          ConversionRun Converted).outcome world) := by
    rw [outcome_bind_of_ok (outcome_toHostValue_of_number restates),
      outcome_bind_of_ok (outcome_toHostValue_of_leads leads), unheld]
    exact .refl .refl _
  induction target with
  | nullable inner inductionHypothesis =>
    rw [outcome_toHost_of_number restates, outcome_toHost_of_leads leads, unheld]
    exact inductionHypothesis
  | object =>
    rw [outcome_toHost_of_number restates, outcome_toHost_of_leads leads, unheld]
    exact untyped _
  | dynamic =>
    rw [outcome_toHost_of_number restates, outcome_toHost_of_leads leads, unheld]
    exact untyped _
  | numeric kind =>
    rw [outcome_toHost_of_number restates, outcome_toHost_of_leads leads, unheld]
    exact toNumeric_inStep restates leads kind
  | _ =>
    rw [outcome_toHost_of_number restates, outcome_toHost_of_leads leads, unheld]
    obtain ⟨cell, rfl, -⟩ := leads
    cases restates <;> exact incompatible_inStep _ _ _

end Bridge

/-! ### Arguments -/

namespace World.SameOrBoxed

variable {engine : EngineId} {world after : World} {plain other : Script.Value}

theorem grows (same : world.SameOrBoxed plain other) (grows : Grows world after) :
    after.SameOrBoxed plain other := by
  cases same with
  | refl => exact .refl plain
  | boxed restates leads => exact .boxed restates (leads.grows grows)

theorem toHost_inStep (same : world.SameOrBoxed plain other) (target : TypeRef) :
    InStep Eq ConversionError.Alike ((toHost engine plain target).outcome world)
      ((toHost engine other target).outcome world) := by
  cases same with
  | refl => exact .refl .refl _
  | boxed restates leads => exact Bridge.toHost_inStep restates leads target

/-- A number is no box that receives anything, and is in none. -/
theorem boxOf? (same : world.SameOrBoxed plain other) :
    world.boxOf? plain = world.boxOf? other := by
  cases same with
  | refl => rfl
  | boxed restates leads =>
    obtain ⟨cell, rfl, target⟩ := leads
    unfold World.boxOf?
    cases restates <;> (dsimp only; rw [target])

end World.SameOrBoxed

namespace Binding

variable {engine : EngineId} {world after : World} {plain other : Script.Value}
  {plains others : List Script.Value}

/-- Runs of a match are in step. -/
abbrev MatchInStep {Result : Type} (run twin : Run Mismatch Result) (world : World) : Prop :=
  InStep Eq Mismatch.Alike (run.outcome world) (twin.outcome world)

theorem heldConversion_inStep (same : world.SameOrBoxed plain other) (target : TypeRef) :
    MatchInStep (held (matching (toHost engine plain target)))
      (held (matching (toHost engine other target))) world :=
  .held ((same.toHost_inStep target).mapFailure fun alike => .conversion alike)

theorem convertArgument_inStep (same : world.SameOrBoxed plain other) (prepared : Prepared)
    (target : TypeRef) :
    MatchInStep (convertArgument engine prepared target plain)
      (convertArgument engine prepared target other) world := by
  refine (heldConversion_inStep same target).bind fun _ same => ?_
  subst same
  exact .refl .refl _

theorem prepareArgument_inStep (same : world.SameOrBoxed plain other) (prepared : Prepared)
    (parameter : Parameter) :
    MatchInStep (prepareArgument engine prepared parameter plain)
      (prepareArgument engine prepared parameter other) world := by
  unfold prepareArgument
  unfold MatchInStep
  split
  · exact convertArgument_inStep same prepared parameter.type
  rw [outcome_bind_of_ok (outcome_types _), outcome_bind_of_ok (outcome_types _),
    outcome_bind_of_ok (outcome_boxOf? _ _), outcome_bind_of_ok (outcome_boxOf? _ _), same.boxOf?]
  cases world.boxOf? other with
  | some box => exact .refl .refl _
  | none =>
    cases parameter.passing with
    | output => exact .refl .refl _
    | byValue => exact convertArgument_inStep same prepared parameter.type
    | byReference => exact convertArgument_inStep same prepared parameter.type

theorem convertLoose_inStep (same : List.Forall₂ world.SameOrBoxed plains others)
    (element : TypeRef) (cost : Cost) :
    MatchInStep (convertLoose engine element cost plains)
      (convertLoose engine element cost others) world := by
  induction plains generalizing world cost others with
  | nil =>
    cases same
    exact .refl .refl _
  | cons plain rest inductionHypothesis =>
    obtain _ | ⟨first, others⟩ := same
    unfold convertLoose
    refine (heldConversion_inStep first element).bind fun {converted _ between} ran same => ?_
    subst same
    have grows : Grows world between := by
      have grows := Leaves.held (matching_grows (toHost_grows engine plain element)) world
      rwa [ran] at grows
    have later := others.imp fun _ _ same => same.grows grows
    refine (inductionHypothesis later (cost.add converted.rule converted.penalty)).bind
      fun _ same => ?_
    subst same
    exact .refl .refl _

theorem collectLoose_inStep (same : List.Forall₂ world.SameOrBoxed plains others)
    (prepared : Prepared) (parameter : Parameter) :
    MatchInStep (collectLoose engine prepared parameter plains)
      (collectLoose engine prepared parameter others) world := by
  unfold collectLoose
  refine (convertLoose_inStep same _ prepared.cost).bind fun _ same => ?_
  subst same
  exact .refl .refl _

theorem collectArguments_inStep (same : List.Forall₂ world.SameOrBoxed plains others)
    (prepared : Prepared) (parameter : Parameter) :
    MatchInStep (collectArguments engine prepared parameter plains)
      (collectArguments engine prepared parameter others) world := by
  have loosely {between : World} (grows : Grows world between) :
      MatchInStep (collectLoose engine prepared parameter plains)
        (collectLoose engine prepared parameter others) between :=
    collectLoose_inStep (same.imp fun _ _ same => same.grows grows) prepared parameter
  unfold collectArguments
  rcases same with _ | ⟨first, _ | ⟨second, rest⟩⟩
  · exact loosely .refl
  · next single twin =>
    -- A single argument is tried as the whole array first. Where that fails its items are collected
    -- in the world that the attempt left.
    dsimp only
    refine (heldConversion_inStep first parameter.type).settle.bind
      fun {direct _ between} ran settled => ?_
    have grows : Grows world between := by
      have grows : Leaves Grows (settle (held (matching (toHost engine single parameter.type))) :
          Run Mismatch (Except Mismatch Converted)) :=
        .settle (.held (matching_grows (toHost_grows engine single parameter.type)))
      have grows := grows world
      rwa [ran] at grows
    cases settled with
    | ok same =>
      subst same
      exact .refl .refl _
    | error _ => exact loosely grows
  · exact loosely .refl

theorem prepareFrom_inStep (same : List.Forall₂ world.SameOrBoxed plains others)
    (prepared : Prepared) (parameters : List Parameter) :
    MatchInStep (prepareFrom engine prepared parameters plains)
      (prepareFrom engine prepared parameters others) world := by
  induction parameters generalizing world prepared plains others with
  | nil => exact .refl .refl _
  | cons parameter rest inductionHypothesis =>
    unfold prepareFrom
    split
    · exact collectArguments_inStep same prepared parameter
    cases same with
    | nil => exact .refl .refl _
    | @cons plain _ _ _ first further =>
      refine (prepareArgument_inStep first prepared parameter).bind
        fun {next _ between} ran same => ?_
      subst same
      have grows : Grows world between := by
        have grows := prepareArgument_grows engine prepared parameter plain world
        rwa [ran] at grows
      exact inductionHypothesis (further.imp fun _ _ same => same.grows grows) next

/-- A parameter list makes the same of arguments and of boxes in their places. -/
theorem prepare_inStep (same : List.Forall₂ world.SameOrBoxed plains others)
    (parameters : List Parameter) :
    MatchInStep (prepare engine parameters plains) (prepare engine parameters others) world := by
  unfold prepare
  rw [same.length_eq]
  split
  · exact prepareFrom_inStep same {} parameters
  · exact .refl .refl _

/-! ### Overloads -/

/-- Two attempts come to the same match, or fail alike. -/
inductive AttemptsAlike :
    Except (Halt Mismatch) Match → Except (Halt Mismatch) Match → Prop
  | matched (best : Match) : AttemptsAlike (.ok best) (.ok best)
  | failed {mismatch other : Mismatch} (alike : mismatch.Alike other) :
      AttemptsAlike (.error (.raised mismatch)) (.error (.raised other))
  | exhausted : AttemptsAlike (.error .exhausted) (.error .exhausted)

theorem attempts_alike (same : List.Forall₂ world.SameOrBoxed plains others) (slot : Slot) :
    AttemptsAlike (attempt engine plains world slot) (attempt engine others world slot) := by
  have inStep : MatchInStep (prepare engine slot.implementation.parameters plains)
      (prepare engine slot.implementation.parameters others) world := prepare_inStep same _
  show AttemptsAlike
    (match (prepare engine slot.implementation.parameters plains).outcome world with
      | (.ok prepared, after) => .ok ⟨slot, prepared, after⟩
      | (.error halt, _) => .error halt)
    (match (prepare engine slot.implementation.parameters others).outcome world with
      | (.ok prepared, after) => .ok ⟨slot, prepared, after⟩
      | (.error halt, _) => .error halt)
  unfold MatchInStep at inStep
  generalize (prepare engine slot.implementation.parameters plains).outcome world = outcome
    at inStep ⊢
  generalize (prepare engine slot.implementation.parameters others).outcome world = other
    at inStep ⊢
  cases inStep with
  | ok same after =>
    subst same
    exact .matched _
  | raised same => exact .failed same
  | exhausted => exact .exhausted

theorem toOption_of_alike {left right : Except (Halt Mismatch) Match}
    (alike : AttemptsAlike left right) : left.toOption = right.toOption := by
  cases alike <;> rfl

/-- Where no candidate matches, the errors told are alike. -/
theorem unmatched_attemptsAlike (name : String) (declared : Nat)
    {left right : List (Except (Halt Mismatch) Match)}
    (alike : List.Forall₂ AttemptsAlike left right) :
    (unmatched name declared left).Alike (unmatched name declared right) := by
  rcases alike with _ | ⟨first, _ | ⟨second, rest⟩⟩
  · exact .same _
  · cases first with
    | matched => exact .same _
    | exhausted => exact .same _
    | failed alike =>
      cases alike with
      | count => exact .same _
      | conversion alike =>
        unfold unmatched
        dsimp only
        split
        · exact .conversion alike
        · exact .same _
  · rw [unmatched_cons_cons, unmatched_cons_cons]
    exact .same _

/-- The choice among overloads is the same whether numbers are passed or boxes of them. -/
theorem resolve_inStep (same : List.Forall₂ world.SameOrBoxed plains others) (name : String)
    (candidates : List Slot) (declared : Nat) :
    InStep Eq ScriptError.Alike
      ((resolve engine name candidates declared plains).outcome world)
      ((resolve engine name candidates declared others).outcome world) := by
  have attempts : List.Forall₂ AttemptsAlike (candidates.map (attempt engine plains world))
      (candidates.map (attempt engine others world)) :=
    List.forall₂_map_left_iff.mpr (List.forall₂_map_right_iff.mpr
      (List.forall₂_same.mpr fun slot _ => attempts_alike same slot))
  have matched : matchesOf engine plains world candidates =
      matchesOf engine others world candidates :=
    List.filterMap_congr fun slot _ => toOption_of_alike (attempts_alike same slot)
  rw [resolve_eq, resolve_eq, matched]
  split
  · exact .raised (unmatched_attemptsAlike name declared attempts) world
  · exact .refl .same _
  · exact .refl .same _

end Binding

/-- Boxing a number does not change what it is bound to. A script integer and a proxy that boxes it
in the narrower of two kinds, or any other script number and a proxy that boxes it, are converted to
the same value by the same rule at the same penalty for every target, or fail alike, if the proxy
can be reached; and overloads are chosen alike, with the same arguments made ready, whichever of the
arguments are numbers or boxes of them. -/
theorem numbers_bind_alike_in_boxes (engine : EngineId) (world : World) :
    (∀ (number box : Script.Value) (host : Value), host.Restates number → world.Leads box host →
      ∀ target, InStep Eq ConversionError.Alike ((toHost engine number target).outcome world)
        ((toHost engine box target).outcome world)) ∧
    ∀ plains others : List Script.Value, List.Forall₂ world.SameOrBoxed plains others →
      ∀ (name : String) (candidates : List Slot) (declared : Nat),
        InStep Eq ScriptError.Alike
          ((resolve engine name candidates declared plains).outcome world)
          ((resolve engine name candidates declared others).outcome world) :=
  ⟨fun _ _ _ restates leads => toHost_inStep restates leads,
    fun _ _ same => resolve_inStep same⟩

/-- A world of two engines, with a box of an integer that the first one made. -/
def boxedSeven : World where
  store := { cells := #[some (.proxy ⟨0, .boxed (.integer ⟨.int32, 7, by decide⟩), none, .none⟩)] }
  engines := #[Engine.new "main" {} none, Engine.new "other" {} none]
  held := [0]

/-- The box is taken for the integer, after another argument. -/
theorem numbers_bind_alike_in_boxes_of_seven :
    let seven : Integer := ⟨.int32, 7, by decide⟩
    let plains : List Script.Value := [.bool true, .int 7]
    let others : List Script.Value := [.bool true, .proxy 0]
    (Value.integer seven).Restates (.int 7) ∧ boxedSeven.Leads (.proxy 0) (.integer seven) ∧
      List.Forall₂ boxedSeven.SameOrBoxed plains others ∧
      (∀ target, InStep Eq ConversionError.Alike ((toHost 1 (.int 7) target).outcome boxedSeven)
        ((toHost 1 (.proxy 0) target).outcome boxedSeven)) ∧
      ∀ (name : String) (candidates : List Slot) (declared : Nat),
        InStep Eq ScriptError.Alike
          ((resolve 1 name candidates declared plains).outcome boxedSeven)
          ((resolve 1 name candidates declared others).outcome boxedSeven) := by
  intro seven plains others
  have restates : (Value.integer seven).Restates (.int 7) := .int rfl rfl
  have leads : boxedSeven.Leads (.proxy 0) (.integer seven) := ⟨0, rfl, rfl⟩
  have same : List.Forall₂ boxedSeven.SameOrBoxed plains others :=
    .cons (.refl _) (.cons (.boxed restates leads) .nil)
  exact ⟨restates, leads, same, (numbers_bind_alike_in_boxes 1 boxedSeven).1 _ _ _ restates leads,
    (numbers_bind_alike_in_boxes 1 boxedSeven).2 _ _ same⟩

/-- The box of an engine that is disposed is no longer taken for the integer. -/
theorem box_of_disposed_engine_refused :
    let seven : Integer := ⟨.int32, 7, by decide⟩
    let disposed := boxedSeven.modifyEngine 0 Engine.dispose
    (Value.integer seven).Restates (.int 7) ∧
      disposed.store.proxy? 0 = some ⟨0, .boxed (.integer seven), none, .none⟩ ∧
      (toHost 1 (.int 7) (.numeric .int32)).outcome disposed =
        (.ok ⟨.integer seven, .exact, 0⟩, disposed) ∧
      (toHost 1 (.proxy 0) (.numeric .int32)).outcome disposed =
        (.error (.raised (.incompatible "disposed host object" "Int32")), disposed) :=
  ⟨.int rfl rfl, rfl, rfl, rfl⟩

end ScriptBridge
