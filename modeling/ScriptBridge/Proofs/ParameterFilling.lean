/-
This file tells what stands in the place of each parameter once arguments are ready.
Places are filled from the left: each argument goes to the parameter at its own place,
a last parameter that collects gets all that are left, and a parameter beyond the
arguments gets its default. How many arguments a list takes is counted over all of its
parameters, wherever they stand; so every required parameter has an argument of its own
exactly in lists in which no required parameter comes after an optional one.
-/

import Mathlib.Data.List.Forall2
import ScriptBridge.Proofs.Growth
import ScriptBridge.Proofs.Outcome

namespace ScriptBridge

open Host Run Bridge Binding

/-! ### Arguments for parameters -/

/-- The box that an argument leads to. -/
def World.boxOf? (world : World) (argument : Script.Value) : Option CellId :=
  match argument with
  | .proxy cell =>
    match world.targetOf cell with
    | .ok (.box box) => some box
    | _ => none
  | _ => none

namespace Binding

/-- What an argument gives for a parameter: a value, and the box that receives what the call leaves
in its place. -/
inductive Provides (engine : EngineId) (world : World) (parameter : Parameter)
    (argument : Script.Value) : Host.Value → Option CellId → Prop
  /-- An argument is converted, unless it is a box passed by reference. -/
  | converted {converted : Converted} {after : World}
      (boxless : parameter.passing = .byValue ∨
        parameter.passing = .byReference ∧ world.boxOf? argument = none)
      (converts : (toHost engine argument parameter.type).outcome world = (.ok converted, after)) :
      Provides engine world parameter argument converted.value none
  /-- A box passed by reference gives what is in it. -/
  | current {box : CellId} (passing : parameter.passing = .byReference)
      (passed : world.boxOf? argument = some box)
      (typed : world.store.boxType box = parameter.type) :
      Provides engine world parameter argument (world.store.boxValue box) (some box)
  /-- An output starts from the initial value of its type, whatever is passed. -/
  | initial {box : Option CellId} (passing : parameter.passing = .output)
      (passed : world.boxOf? argument = box)
      (typed : ∀ cell ∈ box, world.store.boxType cell = parameter.type) :
      Provides engine world parameter argument (world.store.types.initial parameter.type) box

/-- Once conversions have made cells, the argument converts to the item. -/
def Becomes (engine : EngineId) (world : World) (element : TypeRef) (argument : Script.Value)
    (item : Host.Value) : Prop :=
  ∃ between after converted, Grows world between ∧
    (toHost engine argument element).outcome between = (.ok converted, after) ∧
      converted.value = item

/-- What a parameter that collects makes of the arguments from its place on. -/
inductive Collects (engine : EngineId) (world ready : World) (parameter : Parameter)
    (arguments : List Script.Value) : Host.Value → Prop
  /-- A single argument may be the array itself. -/
  | whole {single : Script.Value} {converted : Converted} {after : World}
      (alone : arguments = [single])
      (converts : (toHost engine single parameter.type).outcome world = (.ok converted, after)) :
      Collects engine world ready parameter arguments converted.value
  /-- Otherwise they are converted one by one and put into a new array. -/
  | loose {items : List Host.Value} {array : CellId}
      (become : List.Forall₂ (Becomes engine world (parameter.element?.getD .object)) arguments
        items)
      (made : ready.store.get? array =
        some (.hostArray (parameter.element?.getD .object) items.toArray)) :
      Collects engine world ready parameter arguments (.array array)

/-- What fills the place of a parameter, given the arguments from that place on, while a world
becomes ready. -/
inductive Fills (engine : EngineId) (world ready : World) (parameter : Parameter) :
    List Script.Value → Host.Value → Option CellId → Prop
  /-- The argument at the place. -/
  | own {argument : Script.Value} {rest : List Script.Value} {between : World}
      {value : Host.Value} {box : Option CellId} (single : parameter.collects = false)
      (before : Grows world between) (after : Grows between ready)
      (provides : Provides engine between parameter argument value box) :
      Fills engine world ready parameter (argument :: rest) value box
  /-- The default, or null, if there is no such argument. -/
  | absent (single : parameter.collects = false) :
      Fills engine world ready parameter [] (parameter.default.getD .null) none
  /-- All arguments from the place on. -/
  | collected {arguments : List Script.Value} {between : World} {value : Host.Value}
      (collects : parameter.collects = true) (before : Grows world between)
      (collected : Collects engine between ready parameter arguments value) :
      Fills engine world ready parameter arguments value none

variable {engine : EngineId} {world between after ready : World} {parameter : Parameter}
  {argument : Script.Value} {arguments : List Script.Value} {prepared next : Prepared}
  {value : Host.Value} {box : Option CellId}

theorem Fills.earlier (fills : Fills engine between ready parameter arguments value box)
    (before : Grows world between) : Fills engine world ready parameter arguments value box := by
  cases fills with
  | own single started ended provides => exact .own single (before.trans started) ended provides
  | absent single => exact .absent single
  | collected collects started collected =>
    exact .collected collects (before.trans started) collected

/-! ### One argument -/

theorem outcome_boxOf? (argument : Script.Value) (world : World) :
    (boxOf? argument).outcome world = (.ok (world.boxOf? argument), world) := by
  unfold boxOf? boxedValue? World.boxOf?
  cases argument with
  | proxy cell =>
    dsimp only
    rw [bind_assoc, outcome_bind_of_ok (outcome_observe _ _), pure_bind]
    rcases world.targetOf cell with error | target
    · rfl
    · cases target <;> rfl
  | _ => rfl

theorem outcome_matching_eq_ok {Result : Type} {run : ConversionRun Result} {result : Result} :
    (matching run).outcome world = (.ok result, after) ↔
      run.outcome world = (.ok result, after) := by
  unfold matching
  rw [outcome_mapFailure]
  rcases run.outcome world with ⟨(error | _) | made, left⟩ <;> simp

/-- A value that was needed for a match was converted. -/
theorem converted_of_held_matching {converted : Converted} {type : TypeRef}
    (kept : (held (matching (toHost engine argument type))).outcome world =
      (.ok converted, after)) :
    ∃ left, (toHost engine argument type).outcome world = (.ok converted, left) := by
  obtain ⟨left, matched, -⟩ := outcome_held_eq_ok.mp kept
  exact ⟨left, outcome_matching_eq_ok.mp matched⟩

theorem convertArgument_eq_ok {type : TypeRef}
    (converts : (convertArgument engine prepared type argument).outcome world =
      (.ok next, after)) :
    ∃ converted left, (toHost engine argument type).outcome world = (.ok converted, left) ∧
      next = prepared.add converted.value converted.rule converted.penalty := by
  unfold convertArgument at converts
  obtain ⟨converted, _, kept, rest⟩ := outcome_bind_eq_ok.mp converts
  cases rest
  obtain ⟨left, matched⟩ := converted_of_held_matching kept
  exact ⟨converted, left, matched, rfl⟩

/-- The arguments with one more value, and the box for it if there is one. -/
structure Prepared.Extends (prepared next : Prepared) (value : Host.Value) (box : Option CellId) :
    Prop where
  arguments : next.arguments = prepared.arguments ++ [value]
  boxes : next.boxes = prepared.boxes ++ (box.map (prepared.arguments.length, ·)).toList

theorem Prepared.extends_add (value : Host.Value) (rule : Conversion.Rule) (penalty : Nat) :
    prepared.Extends (prepared.add value rule penalty) value none :=
  ⟨rfl, (List.append_nil _).symm⟩

/-- An argument that fits its parameter provides one value. -/
theorem prepareArgument_eq_ok
    (prepares : (prepareArgument engine prepared parameter argument).outcome world =
      (.ok next, after)) :
    ∃ value box, Provides engine world parameter argument value box ∧
      prepared.Extends next value box := by
  unfold prepareArgument at prepares
  split at prepares
  · next byValue =>
    obtain ⟨converted, left, converts, rfl⟩ := convertArgument_eq_ok prepares
    exact ⟨_, _, .converted (.inl (eq_of_beq byValue)) converts, Prepared.extends_add _ _ _⟩
  next notByValue =>
    rw [outcome_bind_of_ok (outcome_types _), outcome_bind_of_ok (outcome_boxOf? _ _)] at prepares
    cases passed : world.boxOf? argument with
    | some box =>
      rw [passed] at prepares
      dsimp only at prepares
      rw [outcome_bind_of_ok (outcome_readStore _ _)] at prepares
      split at prepares
      · cases prepares
      next typed =>
        have typed : world.store.boxType box = parameter.type := by simpa using typed
        cases passing : parameter.passing with
        | byValue => exact absurd (beq_iff_eq.mpr passing) notByValue
        | byReference =>
          rw [passing] at prepares
          cases prepares
          exact ⟨_, _, .current passing passed typed, rfl, rfl⟩
        | output =>
          rw [passing] at prepares
          cases prepares
          refine ⟨_, _, .initial passing passed fun cell found => ?_, rfl, rfl⟩
          cases found
          exact typed
    | none =>
      rw [passed] at prepares
      cases passing : parameter.passing with
      | byValue => exact absurd (beq_iff_eq.mpr passing) notByValue
      | byReference =>
        rw [passing] at prepares
        obtain ⟨converted, left, converts, rfl⟩ := convertArgument_eq_ok prepares
        exact ⟨_, _, .converted (.inr ⟨passing, passed⟩) converts, Prepared.extends_add _ _ _⟩
      | output =>
        rw [passing] at prepares
        cases prepares
        exact ⟨_, _, .initial passing passed nofun, Prepared.extends_add _ _ _⟩

/-! ### Arguments that are collected -/

/-- The items of a collection are its arguments, converted one after another. -/
theorem convertLoose_eq_ok {element : TypeRef} {cost total : Conversion.Cost}
    {items : List Host.Value}
    (converts : (convertLoose engine element cost arguments).outcome world =
      (.ok (items, total), after)) :
    List.Forall₂ (Becomes engine world element) arguments items := by
  induction arguments generalizing world cost items total after with
  | nil =>
    cases converts
    exact .nil
  | cons argument rest inductionHypothesis =>
    unfold convertLoose at converts
    obtain ⟨converted, between, kept, more⟩ := outcome_bind_eq_ok.mp converts
    obtain ⟨⟨others, _⟩, _, convertsRest, last⟩ := outcome_bind_eq_ok.mp more
    cases last
    have grows : Grows world between := by
      have leaves := Leaves.held (matching_grows (toHost_grows engine argument element)) world
      rwa [kept] at leaves
    obtain ⟨left, first⟩ := converted_of_held_matching kept
    refine .cons ⟨world, left, converted, .refl, first, rfl⟩ ?_
    refine (inductionHypothesis convertsRest).imp fun argument item => ?_
    rintro ⟨later, last, made, grown, converts, same⟩
    exact ⟨later, last, made, grows.trans grown, converts, same⟩

theorem collectLoose_eq_ok
    (collects : (collectLoose engine prepared parameter arguments).outcome world =
      (.ok next, ready)) :
    ∃ value, Collects engine world ready parameter arguments value ∧
      prepared.Extends next value none := by
  unfold collectLoose at collects
  obtain ⟨⟨items, cost⟩, between, converts, more⟩ := outcome_bind_eq_ok.mp collects
  dsimp only at more
  rw [outcome_bind_of_ok (outcome_create _ _)] at more
  cases more
  exact ⟨_, .loose (convertLoose_eq_ok converts) (Store.get?_create_size _ _), rfl,
    (List.append_nil _).symm⟩

/-- A parameter that collects gets one value for all arguments from its place on. -/
theorem collectArguments_eq_ok
    (collects : (collectArguments engine prepared parameter arguments).outcome world =
      (.ok next, ready)) :
    ∃ between value, Grows world between ∧ Collects engine between ready parameter arguments value ∧
      prepared.Extends next value none := by
  have loosely {between : World} (grows : Grows world between)
      (collects : (collectLoose engine prepared parameter arguments).outcome between =
        (.ok next, ready)) :
      ∃ between value, Grows world between ∧
        Collects engine between ready parameter arguments value ∧
          prepared.Extends next value none := by
    obtain ⟨value, collected, extends_⟩ := collectLoose_eq_ok collects
    exact ⟨between, value, grows, collected, extends_⟩
  unfold collectArguments at collects
  dsimp only at collects
  split at collects
  · next single =>
    have grows : Leaves Grows (settle (held (matching (toHost engine single parameter.type))) :
        Run Mismatch (Except Mismatch Converted)) :=
      .settle (.held (matching_grows (toHost_grows engine single parameter.type)))
    have grows := grows world
    obtain ⟨direct, between, tried, more⟩ := outcome_bind_eq_ok.mp collects
    rw [tried] at grows
    cases direct with
    | ok converted =>
      cases more
      obtain ⟨left, converts⟩ := converted_of_held_matching (outcome_settle_eq_ok.mp tried)
      exact ⟨world, _, .refl, .whole rfl converts, Prepared.extends_add _ _ _⟩
    | error _ => exact loosely grows more
  · exact loosely .refl collects

/-! ### Places -/

/-- What stands in the place of a parameter: its value, and the box that receives it back. -/
structure Filling where
  value : Host.Value
  box : Option CellId

/-- The boxes of fillings that stand from a place on. -/
def boxesFrom : Nat → List Filling → List (Nat × CellId)
  | _, [] => []
  | place, filling :: rest => (filling.box.map (place, ·)).toList ++ boxesFrom (place + 1) rest

/-- The fillings stand in the places of the parameters, after what was ready already. -/
structure FillsPlaces (engine : EngineId) (world ready : World) (parameters : List Parameter)
    (arguments : List Script.Value) (prepared result : Prepared) (fillings : List Filling) :
    Prop where
  length : fillings.length = parameters.length
  values : result.arguments = prepared.arguments ++ fillings.map Filling.value
  boxes : result.boxes = prepared.boxes ++ boxesFrom prepared.arguments.length fillings
  fills : ∀ (place : Nat) (parameter : Parameter) (filling : Filling),
    parameters[place]? = some parameter → fillings[place]? = some filling →
      Fills engine world ready parameter (arguments.drop place) filling.value filling.box

namespace FillsPlaces

variable {parameters rest : List Parameter} {result : Prepared} {fillings : List Filling}

theorem nil : FillsPlaces engine world ready [] arguments prepared prepared [] :=
  ⟨rfl, (List.append_nil _).symm, (List.append_nil _).symm, nofun⟩

theorem cons (extended : prepared.Extends next value box)
    (first : Fills engine world ready parameter arguments value box)
    (others : FillsPlaces engine world ready rest arguments.tail next result fillings) :
    FillsPlaces engine world ready (parameter :: rest) arguments prepared result
      (⟨value, box⟩ :: fillings) where
  length := congrArg (· + 1) others.length
  values := by
    rw [others.values, extended.arguments, List.append_assoc]
    rfl
  boxes := by
    rw [others.boxes, extended.boxes, extended.arguments, List.append_assoc, List.length_append]
    rfl
  fills place found filling here filled := by
    cases place with
    | zero =>
      cases here
      cases filled
      exact first
    | succ place =>
      rw [← List.drop_tail]
      exact others.fills place found filling here filled

theorem earlier (fills : FillsPlaces engine between ready parameters arguments prepared result
    fillings) (before : Grows world between) :
    FillsPlaces engine world ready parameters arguments prepared result fillings :=
  { fills with
    fills := fun place found filling here filled =>
      (fills.fills place found filling here filled).earlier before }

end FillsPlaces

/-- The parameters that get a value: those up to the first that collects. -/
def placed : List Parameter → List Parameter
  | [] => []
  | parameter :: rest => if parameter.collects then [parameter] else parameter :: placed rest

theorem placed_cons_of_collects (collects : parameter.collects = true) (rest : List Parameter) :
    placed (parameter :: rest) = [parameter] := if_pos collects

theorem placed_cons_of_single (single : parameter.collects = false) (rest : List Parameter) :
    placed (parameter :: rest) = parameter :: placed rest :=
  if_neg (Bool.eq_false_iff.mp single)

theorem placed_isPrefix (parameters : List Parameter) : placed parameters <+: parameters := by
  induction parameters with
  | nil => exact List.prefix_rfl
  | cons parameter rest inductionHypothesis =>
    cases collects : parameter.collects with
    | true =>
      rw [placed_cons_of_collects collects]
      exact List.prefix_append [parameter] rest
    | false =>
      rw [placed_cons_of_single collects]
      exact List.cons_prefix_cons.mpr ⟨rfl, inductionHypothesis⟩

/-- Where only the last parameter may collect, all get a value. -/
theorem placed_eq_self {parameters : List Parameter}
    (last : ∀ parameter ∈ parameters.dropLast, parameter.collects = false) :
    placed parameters = parameters := by
  induction parameters with
  | nil => rfl
  | cons parameter rest inductionHypothesis =>
    cases rest with
    | nil =>
      unfold placed placed
      split <;> rfl
    | cons second more =>
      rw [placed_cons_of_single (last parameter List.mem_cons_self),
        inductionHypothesis fun other member => last other (List.mem_cons_of_mem _ member)]

/-- Places are filled from the left. -/
theorem prepareFrom_eq_ok {parameters : List Parameter} {result : Prepared}
    (prepares : (prepareFrom engine prepared parameters arguments).outcome world =
      (.ok result, ready)) :
    ∃ fillings,
      FillsPlaces engine world ready (placed parameters) arguments prepared result fillings := by
  induction parameters generalizing prepared arguments world with
  | nil =>
    cases prepares
    exact ⟨[], .nil⟩
  | cons parameter rest inductionHypothesis =>
    unfold prepareFrom at prepares
    cases collects : parameter.collects with
    | true =>
      rw [if_pos collects] at prepares
      obtain ⟨between, value, grows, collected, extended⟩ := collectArguments_eq_ok prepares
      rw [placed_cons_of_collects collects]
      exact ⟨_, .cons extended (.collected collects grows collected) .nil⟩
    | false =>
      rw [if_neg (Bool.eq_false_iff.mp collects)] at prepares
      rw [placed_cons_of_single collects]
      cases arguments with
      | nil =>
        obtain ⟨fillings, filled⟩ := inductionHypothesis prepares
        have extended : prepared.Extends (prepared.addDefault parameter)
            (parameter.default.getD .null) none := ⟨rfl, (List.append_nil _).symm⟩
        exact ⟨_, .cons extended (.absent collects) filled⟩
      | cons argument others =>
        obtain ⟨next, between, takes, more⟩ := outcome_bind_eq_ok.mp prepares
        have before := prepareArgument_grows engine prepared parameter argument world
        have after := prepareFrom_grows engine next rest others between
        rw [takes] at before
        rw [more] at after
        obtain ⟨value, box, provides, extended⟩ := prepareArgument_eq_ok takes
        obtain ⟨fillings, filled⟩ := inductionHypothesis more
        exact ⟨_, .cons extended (.own collects .refl (before.trans after) provides)
          (filled.earlier before)⟩

/-- An argument list is made ready if the parameter list takes so many, and each is. -/
theorem prepare_eq_ok_iff {parameters : List Parameter} :
    (prepare engine parameters arguments).outcome world = (.ok prepared, ready) ↔
      Parameter.accepts parameters arguments.length = true ∧
        (prepareFrom engine {} parameters arguments).outcome world = (.ok prepared, ready) := by
  unfold prepare
  split
  · next accepted => exact (and_iff_right accepted).symm
  · next refused => exact ⟨nofun, fun both => absurd both.1 refused⟩

/-- An argument list that is made ready is one that the parameter list takes, and fills its
places. -/
theorem prepare_eq_ok {parameters : List Parameter}
    (prepares : (prepare engine parameters arguments).outcome world = (.ok prepared, ready)) :
    Parameter.accepts parameters arguments.length = true ∧ ∃ fillings,
      FillsPlaces engine world ready (placed parameters) arguments {} prepared fillings := by
  obtain ⟨accepted, made⟩ := prepare_eq_ok_iff.mp prepares
  exact ⟨accepted, prepareFrom_eq_ok made⟩

/-! ### Required parameters -/

/-- No required parameter comes after an optional one. -/
def requiredFirst (parameters : List Parameter) : Prop :=
  parameters.Pairwise fun earlier later => later.isOptional = false → earlier.isOptional = false

theorem least_le_length (parameters : List Parameter) :
    Parameter.least parameters ≤ parameters.length := List.countP_le_length

theorem least_cons_of_required {first : Parameter} (rest : List Parameter)
    (required : first.isOptional = false) :
    Parameter.least (first :: rest) = Parameter.least rest + 1 :=
  List.countP_cons_of_pos (by rw [required]; rfl)

theorem least_cons_of_optional {first : Parameter} (rest : List Parameter)
    (optional : first.isOptional = true) :
    Parameter.least (first :: rest) = Parameter.least rest :=
  List.countP_cons_of_neg (by rw [optional]; exact Bool.false_ne_true)

/-- The least number of arguments is one that a parameter list takes. -/
theorem accepts_least (parameters : List Parameter) :
    Parameter.accepts parameters (Parameter.least parameters) = true := by
  unfold Parameter.accepts Parameter.greatest?
  rw [decide_eq_true (Nat.le_refl _), Bool.true_and]
  cases last : parameters.getLast? with
  | none =>
    rw [List.getLast?_eq_none_iff.mp last]
    rfl
  | some parameter =>
    dsimp only
    cases parameter.collects with
    | true => rfl
    | false => exact decide_eq_true (least_le_length parameters)

theorem least_le_of_accepts {parameters : List Parameter} {count : Nat}
    (accepted : Parameter.accepts parameters count = true) : Parameter.least parameters ≤ count := by
  unfold Parameter.accepts at accepted
  exact of_decide_eq_true ((Bool.and_eq_true _ _).mp accepted).1

/-- Where required parameters come first, there are no more of them than arguments are needed. -/
theorem lt_least_of_requiredFirst {parameters : List Parameter} (ordered : requiredFirst parameters)
    {place : Nat} {parameter : Parameter} (here : parameters[place]? = some parameter)
    (required : parameter.isOptional = false) : place < Parameter.least parameters := by
  induction parameters generalizing place with
  | nil => cases here
  | cons first rest inductionHypothesis =>
    obtain ⟨before, ordered⟩ := List.pairwise_cons.mp ordered
    cases place with
    | zero =>
      cases here
      rw [least_cons_of_required rest required]
      exact Nat.succ_pos _
    | succ place =>
      rw [List.getElem?_cons_succ] at here
      rw [least_cons_of_required rest (before parameter (List.mem_of_getElem? here) required)]
      exact Nat.succ_lt_succ (inductionHypothesis ordered here)

/-- The last required parameter has no fewer places up to its own than arguments are needed. -/
theorem exists_least_le {parameters : List Parameter}
    (needed : ∃ parameter ∈ parameters, parameter.isOptional = false) :
    ∃ (place : Nat) (parameter : Parameter), parameters[place]? = some parameter ∧
      parameter.isOptional = false ∧ Parameter.least parameters ≤ place + 1 := by
  induction parameters with
  | nil =>
    obtain ⟨_, member, -⟩ := needed
    cases member
  | cons first rest inductionHypothesis =>
    by_cases more : ∃ parameter ∈ rest, parameter.isOptional = false
    · obtain ⟨place, parameter, here, required, least⟩ := inductionHypothesis more
      refine ⟨place + 1, parameter, here, required, ?_⟩
      cases optional : first.isOptional with
      | true =>
        rw [least_cons_of_optional rest optional]
        exact Nat.le_succ_of_le least
      | false =>
        rw [least_cons_of_required rest optional]
        exact Nat.succ_le_succ least
    · obtain ⟨parameter, member, required⟩ := needed
      rcases List.mem_cons.mp member with rfl | inRest
      · have none : Parameter.least rest = 0 := by
          refine List.countP_eq_zero.mpr fun other member counted => ?_
          exact more ⟨other, member, (Bool.not_eq_true' _).mp counted⟩
        refine ⟨0, parameter, rfl, required, Nat.le_of_eq ?_⟩
        rw [least_cons_of_required rest required, none]
      · exact absurd ⟨parameter, inRest, required⟩ more

theorem requiredFirst_of_lt_least {parameters : List Parameter}
    (supplied : ∀ (place : Nat) (parameter : Parameter), parameters[place]? = some parameter →
      parameter.isOptional = false → place < Parameter.least parameters) :
    requiredFirst parameters := by
  induction parameters with
  | nil => exact .nil
  | cons first rest inductionHypothesis =>
    cases optional : first.isOptional with
    | true =>
      -- A required parameter further on would have a place too far for the arguments needed.
      have none : ∀ parameter ∈ rest, parameter.isOptional ≠ false := by
        intro parameter member required
        obtain ⟨place, late, here, lateRequired, least⟩ :=
          exists_least_le ⟨parameter, member, required⟩
        have early := supplied (place + 1) late here lateRequired
        rw [least_cons_of_optional rest optional] at early
        exact absurd least (Nat.not_le_of_gt early)
      exact List.pairwise_cons.mpr ⟨fun later member required => absurd required (none later member),
        List.pairwise_of_forall_mem_list fun _ _ later member required =>
          absurd required (none later member)⟩
    | false =>
      refine List.pairwise_cons.mpr ⟨fun _ _ _ => optional, inductionHypothesis ?_⟩
      intro place parameter here required
      have place_lt := supplied (place + 1) parameter here required
      rw [least_cons_of_required rest optional] at place_lt
      exact Nat.lt_of_succ_lt_succ place_lt

/-- Where a required parameter comes after an optional one, so few arguments are taken that a
required parameter has none. -/
theorem exists_unsupplied {parameters : List Parameter} (unordered : ¬ requiredFirst parameters) :
    ∃ (place : Nat) (parameter : Parameter), parameters[place]? = some parameter ∧
      parameter.isOptional = false ∧ Parameter.least parameters ≤ place := by
  refine Classical.not_not.mp fun none => unordered (requiredFirst_of_lt_least ?_)
  intro place parameter here required
  exact Nat.lt_of_not_le fun least => none ⟨place, parameter, here, required, least⟩

/-! ### Arguments made ready -/

namespace FillsPlaces

variable {parameters : List Parameter} {fillings : List Filling} {place : Nat}

/-- There is a filling for every parameter. -/
theorem exists_filling
    (filled : FillsPlaces engine world ready parameters arguments {} prepared fillings)
    (here : parameters[place]? = some parameter) :
    ∃ filling, fillings[place]? = some filling ∧
      prepared.arguments[place]? = some filling.value ∧
        Fills engine world ready parameter (arguments.drop place) filling.value filling.box := by
  have inside : place < fillings.length := by
    rw [filled.length]
    exact (List.getElem?_eq_some_iff.mp here).1
  have found : fillings[place]? = some fillings[place] := List.getElem?_eq_getElem inside
  refine ⟨fillings[place], found, ?_, filled.fills place parameter _ here found⟩
  rw [filled.values, List.nil_append, List.getElem?_map, found]
  rfl

end FillsPlaces

theorem not_collects_of_required (required : parameter.isOptional = false) :
    parameter.collects = false ∧ parameter.default = none := by
  unfold Parameter.isOptional at required
  obtain ⟨undeclared, single⟩ := Bool.or_eq_false_iff.mp required
  exact ⟨single, Option.not_isSome_iff_eq_none.mp (Bool.eq_false_iff.mp undeclared)⟩

/-- An argument at the place of a required parameter is what fills the place. -/
theorem Fills.own_of_required {place : Nat} (required : parameter.isOptional = false)
    (inside : place < arguments.length)
    (fills : Fills engine world ready parameter (arguments.drop place) value box) :
    ∃ argument between, arguments[place]? = some argument ∧ Grows world between ∧
      Grows between ready ∧ Provides engine between parameter argument value box := by
  rw [List.drop_eq_getElem_cons inside] at fills
  cases fills with
  | own single before after provides =>
    exact ⟨_, _, List.getElem?_eq_getElem inside, before, after, provides⟩
  | collected collects =>
    rw [(not_collects_of_required required).1] at collects
    cases collects

/-- A required parameter without an argument is null. -/
theorem Fills.null_of_required (required : parameter.isOptional = false)
    (fills : Fills engine world ready parameter [] value box) : value = .null := by
  obtain ⟨single, undeclared⟩ := not_collects_of_required required
  cases fills with
  | absent =>
    rw [undeclared]
    rfl
  | collected collects =>
    rw [single] at collects
    cases collects

/-- Arguments that are made ready give one value for every parameter: what the argument at its own
place provides, its default or else null where there is no such argument, and what it collects of
those that are left where it is a last parameter that does. If required parameters come first, each
of them gets what the argument at its own place provides. If not, a list of arguments that is
long enough to be taken leaves one of them null. -/
theorem places_are_filled_in_order (engine : EngineId) (parameters : List Parameter)
    (last : ∀ parameter ∈ parameters.dropLast, parameter.collects = false) :
    (∀ arguments world prepared ready,
      (prepare engine parameters arguments).outcome world = (.ok prepared, ready) →
        ∃ fillings : List Filling, fillings.length = parameters.length ∧
          prepared.arguments = fillings.map Filling.value ∧
          prepared.boxes = boxesFrom 0 fillings ∧
          ∀ (place : Nat) (parameter : Parameter) (filling : Filling),
            parameters[place]? = some parameter → fillings[place]? = some filling →
              Fills engine world ready parameter (arguments.drop place) filling.value
                filling.box) ∧
    (requiredFirst parameters → ∀ arguments world prepared ready,
      (prepare engine parameters arguments).outcome world = (.ok prepared, ready) →
        ∀ (place : Nat) (parameter : Parameter), parameters[place]? = some parameter →
          parameter.isOptional = false →
            ∃ argument value box between, arguments[place]? = some argument ∧
              prepared.arguments[place]? = some value ∧ Grows world between ∧
                Grows between ready ∧ Provides engine between parameter argument value box) ∧
    (¬ requiredFirst parameters → ∃ count, Parameter.accepts parameters count = true ∧
      ∃ (place : Nat) (parameter : Parameter), parameters[place]? = some parameter ∧
        parameter.isOptional = false ∧ count ≤ place ∧
          ∀ arguments world prepared ready, arguments.length = count →
            (prepare engine parameters arguments).outcome world = (.ok prepared, ready) →
              prepared.arguments[place]? = some .null) := by
  refine ⟨?_, ?_, ?_⟩
  · intro arguments world prepared ready prepares
    obtain ⟨-, fillings, filled⟩ := prepare_eq_ok prepares
    rw [placed_eq_self last] at filled
    exact ⟨fillings, filled.length, filled.values, filled.boxes, filled.fills⟩
  · intro ordered arguments world prepared ready prepares place parameter here required
    obtain ⟨accepted, fillings, filled⟩ := prepare_eq_ok prepares
    rw [placed_eq_self last] at filled
    obtain ⟨filling, -, stands, fills⟩ := filled.exists_filling here
    have inside : place < arguments.length :=
      Nat.lt_of_lt_of_le (lt_least_of_requiredFirst ordered here required)
        (least_le_of_accepts accepted)
    obtain ⟨argument, between, given, before, after, provides⟩ :=
      Fills.own_of_required required inside fills
    exact ⟨argument, _, _, between, given, stands, before, after, provides⟩
  · intro unordered
    obtain ⟨place, parameter, here, required, least⟩ := exists_unsupplied unordered
    refine ⟨_, accepts_least parameters, place, parameter, here, required, least, ?_⟩
    intro arguments world prepared ready few prepares
    obtain ⟨-, fillings, filled⟩ := prepare_eq_ok prepares
    rw [placed_eq_self last] at filled
    obtain ⟨filling, -, stands, fills⟩ := filled.exists_filling here
    rw [List.drop_eq_nil_of_le (few ▸ least)] at fills
    rw [stands, Fills.null_of_required required fills]

/-- An optional parameter, and a required one after it. -/
def optionalFirst : List Parameter :=
  [{ name := "first", type := .bool, default := some (.bool false) },
    { name := "second", type := .bool }]

/-- One argument is enough for them, though it goes to the first. -/
theorem places_are_filled_in_order_of_two :
    (∀ parameter ∈ optionalFirst.dropLast, parameter.collects = false) ∧
      ∃ fillings : List Filling, fillings.length = 2 ∧
        [Host.Value.bool true, .null] = fillings.map Filling.value ∧ [] = boxesFrom 0 fillings ∧
        ∀ (place : Nat) (parameter : Parameter) (filling : Filling),
          optionalFirst[place]? = some parameter → fillings[place]? = some filling →
            Fills 0 {} {} parameter ([Script.Value.bool true].drop place) filling.value
              filling.box := by
  have last : ∀ parameter ∈ optionalFirst.dropLast, parameter.collects = false := by decide
  refine ⟨last, ?_⟩
  exact (places_are_filled_in_order 0 optionalFirst last).1 [.bool true] {}
    { arguments := [.bool true, .null], cost := { defaults := 1 } } {} rfl

/-- The second parameter is required, and is given no argument; yet the argument list is taken. -/
theorem required_parameter_left_null :
    (optionalFirst[1]?.map Parameter.isOptional = some false ∧
      [Script.Value.bool true][1]? = none) ∧
      ((prepare 0 optionalFirst [.bool true]).outcome {}).1 =
        .ok { arguments := [.bool true, .null], cost := { defaults := 1 } } :=
  ⟨⟨rfl, rfl⟩, rfl⟩

end Binding

end ScriptBridge
