/-
This file follows arguments that are passed in boxes. Host code gets what a box holds, or
the initial value of its type for an output, in the place of the parameter that the box
was passed for. If the code answers, each box receives what was left in that place; if it
fails, or does not get to run, no box receives anything. Whatever else the engine does
around the code leaves every box alone.
-/

import ScriptBridge.Proofs.AccessControl
import ScriptBridge.Proofs.CodeSteps
import ScriptBridge.Proofs.ParameterFilling
import ScriptBridge.Proofs.Resting

namespace ScriptBridge

open Host Run Bridge Binding

/-! ### The number of arguments -/

namespace Run

variable {Failure Other Answer Result : Type} {count : Nat}

/-- Whatever the run answers, so many arguments are left. -/
def KeepsCount (count : Nat) (run : Run Failure (Answer × List Value)) : Prop :=
  ∀ ended, run.Yields ended → ended.2.length = count

namespace KeepsCount

theorem pure {answer : Answer} {left : List Value} (same : left.length = count) :
    KeepsCount count (Pure.pure (answer, left) : Run Failure (Answer × List Value)) := by
  rintro _ ⟨world, after, ran⟩
  cases ran
  exact same

theorem raise (error : Failure) :
    KeepsCount count (Run.raise error : Run Failure (Answer × List Value)) := by
  rintro _ ⟨world, after, ran⟩
  cases ran

theorem exhausted : KeepsCount count (Run.exhausted : Run Failure (Answer × List Value)) := by
  rintro _ ⟨world, after, ran⟩
  cases ran

/-- Only what comes last matters. -/
theorem bind {run : Run Failure Result} {next : Result → Run Failure (Answer × List Value)}
    (last : ∀ result, run.Yields result → KeepsCount count (next result)) :
    KeepsCount count (run >>= next) := by
  rintro ended ⟨world, after, ran⟩
  obtain ⟨result, between, first, rest⟩ := outcome_bind_eq_ok.mp ran
  exact last result ⟨world, between, first⟩ ended ⟨between, after, rest⟩

theorem scope {run : Run Failure (Answer × List Value)} (keeps : KeepsCount count run) :
    KeepsCount count (Run.scope run) := by
  rintro ended ⟨world, after, ran⟩
  rw [outcome_scope] at ran
  refine keeps ended ⟨world, (run.outcome world).2, ?_⟩
  rw [← (Prod.mk.inj ran).1]

theorem mapFailure {change : World → Failure → Other} {run : Run Failure (Answer × List Value)}
    (keeps : KeepsCount count run) : KeepsCount count (run.mapFailure change) := by
  rintro ended ⟨world, after, ran⟩
  rw [outcome_mapFailure] at ran
  rcases went : run.outcome world with ⟨(error | _) | result, left⟩
  · rw [went] at ran
    cases ran
  · rw [went] at ran
    cases ran
  · rw [went] at ran
    cases ran
    exact keeps ended ⟨world, after, went⟩

end KeepsCount

end Run

namespace Host

variable {calls : Calls}

theorem Statement.run_keepsCount (setting : Setting) (arguments : List Value)
    (statement : Statement) :
    KeepsCount arguments.length (statement.run calls setting arguments) := by
  cases statement with
  | answer => exact .bind fun _ _ => .pure rfl
  | setState => exact .bind fun _ _ => .bind fun _ _ => .pure rfl
  | setStateAt => exact .bind fun _ _ => .bind fun _ _ => .bind fun _ _ => .bind fun _ _ => .pure rfl
  | setArgument index =>
    refine .bind fun value _ => ?_
    split
    · exact .pure List.length_set
    · exact .raise _
  | raise => exact .raise _
  | fire => exact .bind fun _ _ => .bind fun _ _ => .pure rfl
  | checkInterrupt =>
    dsimp only [Statement.run]
    split
    · exact .bind fun _ _ => .bind fun _ _ => .pure rfl
    · exact .pure rfl
  | perform => exact .bind fun _ _ => .pure rfl
  | log => exact .bind fun _ _ => .bind fun _ _ => .bind fun _ _ => .pure rfl

theorem runStatements_keepsCount (setting : Setting) (arguments : List Value) (code : Code) :
    KeepsCount arguments.length (runStatements calls setting arguments code) := by
  induction code generalizing arguments with
  | nil => exact .pure rfl
  | cons statement rest inductionHypothesis =>
    refine .bind fun ended ran => ?_
    have same := KeepsCount.scope (Statement.run_keepsCount setting arguments statement) ended ran
    refine .bind fun _ _ => ?_
    split
    · exact .pure same
    · rw [← same]
      exact inductionHypothesis _

theorem runCode_keepsCount (setting : Setting) (arguments : List Value) (code : Code) :
    KeepsCount arguments.length (runCode calls setting arguments code) :=
  .scope (.bind fun _ _ => runStatements_keepsCount setting arguments code)

theorem Body.run_keepsCount (setting : Setting) (arguments : List Value) (body : Body) :
    KeepsCount arguments.length (body.run calls setting arguments) := by
  cases body with
  | code label statements => exact .bind fun _ _ => runCode_keepsCount setting arguments statements
  | disconnect => exact .bind fun _ _ => .pure rfl
  | connected => exact .bind fun _ _ => .pure rfl

end Host

namespace Script

variable {calls : Calls}

@[simp]
theorem length_receiveBoxes (store : Store) (boxes : List (Nat × CellId))
    (arguments : List Host.Value) :
    (receiveBoxes store boxes arguments).length = arguments.length := by
  unfold receiveBoxes
  induction boxes generalizing arguments with
  | nil => rfl
  | cons entry rest inductionHypothesis =>
    rw [List.foldl_cons, inductionHypothesis, List.length_set]

theorem tryCallBack_keepsCount (function : CellId) (signature : Signature)
    (arguments : List Host.Value) :
    KeepsCount arguments.length (tryCallBack calls function signature arguments) := by
  refine .scope (.bind fun contents _ => .bind fun settled _ => ?_)
  split
  · exact .pure rfl
  · exact .bind fun store _ => .bind fun _ _ => .pure (length_receiveBoxes _ _ _)

theorem callBack_keepsCount (function : CellId) (signature : Signature)
    (arguments : List Host.Value) :
    KeepsCount arguments.length (callBack calls function signature arguments) :=
  .bind fun _ ran => .bind fun _ _ =>
    .pure (tryCallBack_keepsCount function signature arguments _ ran)

theorem invokeDelegate_keepsCount (cell : CellId) (arguments : List Host.Value) :
    KeepsCount arguments.length (invokeDelegate calls cell arguments) := by
  refine .scope (.bind fun _ _ => .bind fun found _ => ?_)
  split
  · exact runCode_keepsCount {} arguments _
  · exact .bind fun _ _ => .mapFailure (callBack_keepsCount _ _ arguments)
  · exact .pure rfl

theorem startWithin_invokeDelegate_keepsCount (depth : Nat) (cell : CellId)
    (arguments : List Host.Value) :
    KeepsCount arguments.length ((startWithin depth).invokeDelegate cell arguments) := by
  cases depth with
  | zero => exact .exhausted
  | succ depth => exact invokeDelegate_keepsCount cell arguments

end Script

/-! ### Boxes that are passed -/

theorem Grows.boxOf? {before after : World} (grows : Grows before after)
    {argument : Script.Value} {box : CellId} (passed : before.boxOf? argument = some box) :
    after.boxOf? argument = some box := by
  unfold World.boxOf? at passed ⊢
  cases argument with
  | proxy cell =>
    dsimp only at passed ⊢
    split at passed
    · next reached => rw [grows.targetOf reached]; exact passed
    · cases passed
  | _ => cases passed

namespace Binding

theorem mem_boxesFrom {start place : Nat} {cell : CellId} {fillings : List Filling} :
    (place, cell) ∈ boxesFrom start fillings ↔ ∃ index filling, place = start + index ∧
      fillings[index]? = some filling ∧ filling.box = some cell := by
  induction fillings generalizing start with
  | nil => simp [boxesFrom]
  | cons first rest inductionHypothesis =>
    unfold boxesFrom
    rw [List.mem_append, inductionHypothesis]
    constructor
    · rintro (here | ⟨index, filling, rfl, found, box⟩)
      · obtain ⟨box, passed, same⟩ := Option.map_eq_some_iff.mp (Option.mem_toList.mp here)
        cases same
        exact ⟨0, first, rfl, rfl, passed⟩
      · exact ⟨index + 1, filling, by omega, found, box⟩
    · rintro ⟨index, filling, rfl, found, box⟩
      cases index with
      | zero =>
        cases found
        rw [box]
        exact .inl List.mem_cons_self
      | succ index => exact .inr ⟨index, filling, by omega, found, box⟩

variable {engine : EngineId} {world ready : World} {parameters : List Parameter}
  {arguments : List Script.Value} {prepared : Prepared}

/-- What host code finds in the places that boxes are passed for, once its arguments are ready. -/
structure PassesBoxes (parameters : List Parameter) (arguments : List Script.Value)
    (world ready : World) (prepared : Prepared) : Prop where
  /-- A box passed by reference gives what it holds, and one passed for an output the initial value
  of its type. -/
  passed : ∀ place cell, (place, cell) ∈ prepared.boxes → ∃ parameter argument,
    parameters[place]? = some parameter ∧ arguments[place]? = some argument ∧
      ready.boxOf? argument = some cell ∧ ready.store.boxType cell = parameter.type ∧
        ((parameter.passing = .byReference ∧
            prepared.arguments[place]? = some (ready.store.boxValue cell)) ∨
          (parameter.passing = .output ∧
            prepared.arguments[place]? = some (ready.store.types.initial parameter.type)))
  /-- Every output that is given an argument starts from the initial value of its type. -/
  outputs : ∀ (place : Nat) (parameter : Parameter), (placed parameters)[place]? = some parameter →
    parameter.collects = false → parameter.passing = .output → place < arguments.length →
      prepared.arguments[place]? = some (ready.store.types.initial parameter.type)
  /-- No box is left out. -/
  every : ∀ (place : Nat) (parameter : Parameter) argument cell,
    (placed parameters)[place]? = some parameter → parameter.collects = false →
      parameter.passing ≠ .byValue → arguments[place]? = some argument →
        world.boxOf? argument = some cell → (place, cell) ∈ prepared.boxes

section Filling

variable {parameter : Parameter} {argument : Script.Value} {value : Value} {box : Option CellId}
  {place : Nat} {cell : CellId}

/-- An argument at the place of a parameter that does not collect is what fills the place. -/
theorem Fills.provides (single : parameter.collects = false)
    (given : arguments[place]? = some argument)
    (fills : Fills engine world ready parameter (arguments.drop place) value box) :
    ∃ between, Grows world between ∧ Grows between ready ∧
      Provides engine between parameter argument value box := by
  obtain ⟨inside, rfl⟩ := List.getElem?_eq_some_iff.mp given
  rw [List.drop_eq_getElem_cons inside] at fills
  cases fills with
  | own _ before after provides => exact ⟨_, before, after, provides⟩
  | collected collects =>
    rw [single] at collects
    cases collects

/-- Only an argument fills a place with a box. -/
theorem Fills.single_of_box
    (fills : Fills engine world ready parameter (arguments.drop place) value (some cell)) :
    parameter.collects = false ∧ ∃ argument, arguments[place]? = some argument := by
  generalize left : arguments.drop place = rest at fills
  cases fills with
  | own single =>
    have given : arguments[place]? = some _ :=
      List.head?_drop.symm.trans (congrArg List.head? left)
    exact ⟨single, _, given⟩

/-- The box that is passed by reference or for an output is the one that the argument leads to. -/
theorem Provides.box_eq (provides : Provides engine world parameter argument value box)
    (passing : parameter.passing ≠ .byValue) : box = world.boxOf? argument := by
  cases provides with
  | converted boxless =>
    rcases boxless with byValue | ⟨-, passed⟩
    · exact absurd byValue passing
    · exact passed.symm
  | current _ passed => exact passed.symm
  | initial _ passed => exact passed.symm

theorem Provides.value_of_output (provides : Provides engine world parameter argument value box)
    (passing : parameter.passing = .output) :
    value = world.store.types.initial parameter.type := by
  cases provides with
  | converted boxless =>
    rcases boxless with byValue | ⟨byReference, -⟩
    · rw [passing] at byValue
      cases byValue
    · rw [passing] at byReference
      cases byReference
  | current byReference =>
    rw [passing] at byReference
    cases byReference
  | initial => rfl

/-- What a box that is passed provides. -/
theorem Provides.of_box (provides : Provides engine world parameter argument value (some cell)) :
    world.boxOf? argument = some cell ∧ world.store.boxType cell = parameter.type ∧
      ((parameter.passing = .byReference ∧ value = world.store.boxValue cell) ∨
        (parameter.passing = .output ∧ value = world.store.types.initial parameter.type)) := by
  cases provides with
  | current passing passed typed => exact ⟨passed, typed, .inl ⟨passing, rfl⟩⟩
  | initial passing passed typed => exact ⟨passed, typed cell rfl, .inr ⟨passing, rfl⟩⟩

end Filling

/-- Arguments that are made ready pass boxes. -/
theorem passesBoxes_of_prepare
    (prepares : (prepare engine parameters arguments).outcome world = (.ok prepared, ready)) :
    PassesBoxes parameters arguments world ready prepared := by
  obtain ⟨-, fillings, filled⟩ := prepare_eq_ok prepares
  have boxes {place : Nat} {cell : CellId} : (place, cell) ∈ prepared.boxes ↔
      ∃ filling, fillings[place]? = some filling ∧ filling.box = some cell := by
    rw [filled.boxes, List.nil_append, mem_boxesFrom]
    constructor
    · rintro ⟨index, filling, same, found, box⟩
      rw [show place = index by rw [same]; exact Nat.zero_add index]
      exact ⟨filling, found, box⟩
    · rintro ⟨filling, found, box⟩
      exact ⟨place, filling, (Nat.zero_add place).symm, found, box⟩
  refine ⟨?_, ?_, ?_⟩
  · intro place cell listed
    obtain ⟨filling, found, box⟩ := boxes.mp listed
    have inside : place < (placed parameters).length := by
      rw [← filled.length]
      exact (List.getElem?_eq_some_iff.mp found).1
    have here := List.getElem?_eq_getElem inside
    obtain ⟨_, same, stands, fills⟩ := filled.exists_filling here
    cases found.symm.trans same
    rw [box] at fills
    obtain ⟨single, argument, given⟩ := fills.single_of_box
    obtain ⟨between, -, grows, provides⟩ := fills.provides single given
    obtain ⟨leads, typed, gives⟩ := provides.of_box
    refine ⟨_, argument, List.prefix_iff_getElem?.mp (placed_isPrefix parameters) place inside, given,
      grows.boxOf? leads, (grows.extends.boxType cell).trans typed, ?_⟩
    rw [stands, grows.extends.boxValue, grows.extends.types]
    exact gives.imp (.imp_right (congrArg some)) (.imp_right (congrArg some))
  · intro place parameter here single passing inside
    obtain ⟨filling, -, stands, fills⟩ := filled.exists_filling here
    obtain ⟨between, -, grows, provides⟩ :=
      fills.provides single (List.getElem?_eq_getElem inside)
    rw [stands, grows.extends.types, provides.value_of_output passing]
  · intro place parameter argument cell here single passing given leads
    obtain ⟨filling, found, -, fills⟩ := filled.exists_filling here
    obtain ⟨between, grows, -, provides⟩ := fills.provides single given
    exact boxes.mpr ⟨filling, found, (provides.box_eq passing).trans (grows.boxOf? leads)⟩

end Binding

/-! ### Boxes that receive -/

/-- Boxes have received what was left in the places of arguments, and no other cell has changed. -/
structure Store.Receives (before after : Store) (boxes : List (Nat × CellId))
    (arguments : List Value) : Prop where
  received : ∀ place cell, (place, cell) ∈ boxes → ∃ value, arguments[place]? = some value ∧
    after.get? cell = some (.box (before.boxType cell) value)
  others : ∀ cell, (∀ place, (place, cell) ∉ boxes) → after.get? cell = before.get? cell

namespace Store

variable {store : Store} {boxes : List (Nat × CellId)} {arguments : List Value}

theorem Receives.nil : store.Receives store [] arguments := ⟨nofun, fun _ _ => rfl⟩

/-- A box receives its argument before others do. -/
theorem Receives.cons {after : Store} {place : Nat} {cell : CellId} {value : Value}
    (given : arguments[place]? = some value) (inside : cell < store.cells.size)
    (once : ∀ other, (other, cell) ∉ boxes)
    (receives : (store.setBox cell value).Receives after boxes arguments) :
    store.Receives after ((place, cell) :: boxes) arguments where
  received other box listed := by
    rcases List.mem_cons.mp listed with same | later
    · cases same
      exact ⟨value, given, (receives.others cell once).trans (get?_put_self inside)⟩
    · have different : cell ≠ box := by
        rintro rfl
        exact once other later
      obtain ⟨left, taken, found⟩ := receives.received other box later
      refine ⟨left, taken, ?_⟩
      rw [found]
      unfold setBox boxType
      rw [get?_put_of_ne different]
  others box none := by
    have different : cell ≠ box := by
      rintro rfl
      exact none place List.mem_cons_self
    rw [receives.others box fun other listed => none other (List.mem_cons_of_mem _ listed)]
    exact get?_put_of_ne different

theorem receives_foldl (distinct : (boxes.map Prod.snd).Nodup)
    (inside : ∀ entry ∈ boxes, entry.1 < arguments.length ∧ entry.2 < store.cells.size) :
    store.Receives (boxes.foldl (fun store (place, box) =>
      match arguments[place]? with
      | some value => store.setBox box value
      | none => store) store) boxes arguments := by
  induction boxes generalizing store with
  | nil => exact .nil
  | cons entry rest inductionHypothesis =>
    obtain ⟨place, cell⟩ := entry
    rw [List.map_cons, List.nodup_cons] at distinct
    obtain ⟨once, distinct⟩ := distinct
    obtain ⟨placeInside, cellInside⟩ := inside _ List.mem_cons_self
    have given := List.getElem?_eq_getElem placeInside
    rw [List.foldl_cons]
    dsimp only
    rw [given]
    refine .cons given cellInside (fun _ listed => once (List.mem_map.mpr ⟨_, listed, rfl⟩)) ?_
    refine inductionHypothesis distinct fun entry listed => ?_
    unfold setBox
    rw [size_put]
    exact inside entry (List.mem_cons_of_mem _ listed)

end Store

/-! ### Code that boxes are passed to -/

/-- No cell is taken out of the store. -/
def World.Lengthens (before after : World) : Prop :=
  before.store.cells.size ≤ after.store.cells.size

instance : RunRelation World.Lengthens where
  refl world := Nat.le_refl world.store.cells.size
  trans := Nat.le_trans
  held world _ := Nat.le_refl world.store.cells.size

theorem Host.Body.run_lengthens {calls : Calls} (reach : calls.Reach Reaches) (setting : Setting)
    (arguments : List Value) (body : Body) :
    Leaves World.Lengthens (body.run calls setting arguments) := by
  have silent (body : Body) (silent : body.label? = none) :
      Leaves World.Lengthens (body.run calls setting arguments) :=
    (Body.run_reaches reach setting body silent arguments).mono Reaches.size_le
  cases body with
  | code label statements =>
    cases label with
    | none => exact silent (.code none statements) rfl
    | some label =>
      refine .bind (.bind (.observe _) fun _ => fun world => Nat.le_refl _) fun _ => ?_
      exact (runCode_reaches reach setting arguments statements).mono Reaches.size_le
  | disconnect => exact silent .disconnect rfl
  | connected => exact silent .connected rfl

/-- What comes of code that arguments are passed to, from the world in which they are ready. -/
inductive WritesBack (prepared : Prepared) (code : HostRun (Value × List Value)) (ready : World) :
    Except (Halt ScriptError) Script.Value × World → Prop
  /-- The code does not get to run, and every box stays as it is. -/
  | refused {error : ScriptError} {after : World} (rests : ready.Rests after) :
      WritesBack prepared code ready (.error (.raised error), after)
  /-- The code fails, and every box stays as the code left it. -/
  | failed {start left after : World} {halt : Halt HostError} {error : Halt ScriptError}
      (enters : ready.Rests start) (store : start.store = ready.store)
      (fails : code.outcome start = (.error halt, left)) (rests : left.Rests after) :
      WritesBack prepared code ready (.error error, after)
  /-- The code answers, the boxes receive what it left in their places, and the answer is
  marshaled. -/
  | answered {start left ended written after : World} {answer : Value} {arguments : List Value}
      {result : Except (Halt ScriptError) Script.Value} (enters : ready.Rests start)
      (store : start.store = ready.store)
      (answers : code.outcome start = (.ok (answer, arguments), left)) (leaves : left.Rests ended)
      (receives : ended.store.Receives written.store prepared.boxes arguments)
      (marshals : written.Rests after) : WritesBack prepared code ready (result, after)

namespace Binding

variable {engine : EngineId} {world ready : World} {parameters : List Parameter}
  {arguments : List Script.Value} {prepared : Prepared}

/-- Calls code with arguments made ready, puts them back and marshals the answer. -/
def callWith (engine : EngineId) (prepared : Prepared) (code : HostRun (Value × List Value))
    (marshal : Value → ScriptRun Script.Value) : ScriptRun Script.Value := do
  let (answer, left) ← held (callHost engine code)
  writeBack prepared left
  marshal answer

/-- The answer of code that is declared to answer with a type. -/
def marshalAs (calls : Calls) (engine : EngineId) (type : TypeRef) (answer : Value) :
    ScriptRun Script.Value :=
  if type == .void then return .undefined else toScript calls engine answer type

theorem marshalAs_rests (depth : Nat) (engine : EngineId) (type : TypeRef) (answer : Value) :
    Leaves World.Rests (marshalAs (Script.startWithin depth) engine type answer) := by
  unfold marshalAs
  split
  · exact .pure _
  · exact toScript_rests (startWithin_toScript_rests depth engine) answer type

/-- Code that keeps the number of its arguments and all cells is followed by putting them back. -/
theorem callWith_writesBack {code : HostRun (Value × List Value)}
    {marshal : Value → ScriptRun Script.Value}
    (passes : PassesBoxes parameters arguments world ready prepared)
    (living : ∀ entry ∈ prepared.boxes, ready.store.isLive entry.2 = true)
    (distinct : (prepared.boxes.map Prod.snd).Nodup)
    (keeps : KeepsCount prepared.arguments.length code)
    (lengthens : Leaves World.Lengthens code)
    (marshals : ∀ answer, Leaves World.Rests (marshal answer)) :
    WritesBack prepared code ready ((callWith engine prepared code marshal).outcome ready) := by
  unfold callWith
  have framed := callHost_framed engine code ready
  generalize called : (callHost engine code).outcome ready = outcome at framed
  cases framed with
  | refused rests =>
    rw [outcome_bind_of_error (outcome_held_of_error called)]
    exact .refused rests
  | @ended start left after result enters _ store ran rests =>
    cases result with
    | error halt =>
      obtain ⟨seen, fails⟩ := seenIn_error (hostFailure engine) left halt
      rw [fails] at called
      rw [outcome_bind_of_error (outcome_held_of_error called)]
      exact .failed enters store ran rests
    | ok answered =>
      obtain ⟨answer, given⟩ := answered
      have inside : ∀ entry ∈ prepared.boxes, entry.1 < given.length ∧
          entry.2 < (after.holding (HoldsCells.cells (answer, given))).store.cells.size := by
        rintro ⟨place, cell⟩ listed
        obtain ⟨parameter, argument, -, -, -, -, seen⟩ := passes.passed place cell listed
        obtain ⟨value, stands⟩ : ∃ value, prepared.arguments[place]? = some value :=
          seen.elim (fun seen => ⟨_, seen.2⟩) fun seen => ⟨_, seen.2⟩
        refine ⟨?_, ?_⟩
        · rw [keeps _ ⟨start, left, ran⟩]
          exact (List.getElem?_eq_some_iff.mp stands).1
        · obtain ⟨contents, found⟩ := Store.isLive_iff.mp (living _ listed)
          have lengthened := lengthens start
          rw [ran] at lengthened
          refine Nat.lt_of_lt_of_le (Store.lt_size_of_get? found) ?_
          rw [← store]
          exact Nat.le_trans lengthened rests.wanes.store.size_le
      have kept : (held (callHost engine code)).outcome ready = (.ok (answer, given), _) :=
        outcome_held_eq_ok.mpr ⟨after, called, rfl⟩
      have leaves : left.Rests (after.holding (HoldsCells.cells (answer, given))) :=
        rests.trans (RunRelation.held after _)
      rw [outcome_bind_of_ok kept]
      exact .answered enters store ran leaves (Store.receives_foldl distinct inside)
        (marshals answer _)

end Binding

/-- Arguments that are passed in boxes are put back all or none. Code that runs with arguments made
ready finds in the place of each box what it holds, or the initial value of its type for an output;
if the code answers, the boxes receive what it left in their places, and if it fails or does not
run, no box receives anything. The engine changes no other cell around the code. -/
theorem boxes_receive_what_code_leaves (depth : Nat) (engine : EngineId) {world ready : World}
    {parameters : List Parameter} {arguments : List Script.Value} {prepared : Prepared}
    (prepares : (prepare engine parameters arguments).outcome world = (.ok prepared, ready))
    (living : ∀ entry ∈ prepared.boxes, ready.store.isLive entry.2 = true)
    (distinct : (prepared.boxes.map Prod.snd).Nodup) :
    PassesBoxes parameters arguments world ready prepared ∧
    (∀ scene slot body, slot.implementation.implementation = .invoke body →
      WritesBack prepared
        (useBody (Script.startWithin depth) scene slot .call body
          { self := scene.subject.self, caller := some engine } prepared.arguments) ready
        ((invokeSlot (Script.startWithin depth) engine scene slot prepared arguments).outcome
          ready)) ∧
    ∀ delegate signature,
      (world.store.types.type (world.store.delegateType delegate)).signature? = some signature →
        signature.parameters = parameters →
          WritesBack prepared ((Script.startWithin depth).invokeDelegate delegate prepared.arguments)
            ready ((callDelegate (Script.startWithin depth) engine delegate arguments).outcome
              world) := by
  have passes := passesBoxes_of_prepare prepares
  have reach := Script.startWithin_reach depth
  refine ⟨passes, ?_, ?_⟩
  · intro scene slot body runs
    have called : invokeSlot (Script.startWithin depth) engine scene slot prepared arguments =
        callWith engine prepared (useBody (Script.startWithin depth) scene slot .call body
            { self := scene.subject.self, caller := some engine } prepared.arguments)
          (marshalAs (Script.startWithin depth) engine slot.declaration.type) := by
      unfold invokeSlot
      rw [runs]
      rfl
    rw [called]
    refine callWith_writesBack passes living distinct ?_ ?_ (marshalAs_rests depth engine _)
    · exact .bind fun _ _ => Body.run_keepsCount _ _ body
    · exact .bind (fun world => Nat.le_refl _) fun _ => Body.run_lengthens reach _ _ body
  · rintro delegate signature signed rfl
    have settled : (settle (prepare engine signature.parameters arguments) :
        ScriptRun (Except Mismatch Prepared)).outcome world = (.ok (.ok prepared), ready) :=
      outcome_settle_eq_ok.mpr prepares
    have called : (callDelegate (Script.startWithin depth) engine delegate arguments).outcome world =
        (callWith engine prepared ((Script.startWithin depth).invokeDelegate delegate
          prepared.arguments) (marshalAs (Script.startWithin depth) engine
            signature.result)).outcome ready := by
      unfold callDelegate
      rw [outcome_bind_of_ok (outcome_types _), outcome_bind_of_ok (outcome_readStore _ _)]
      dsimp only
      rw [signed]
      exact outcome_bind_of_ok settled
    rw [called]
    refine callWith_writesBack passes living distinct ?_ ?_ (marshalAs_rests depth engine _)
    · exact Script.startWithin_invokeDelegate_keepsCount depth delegate _
    · exact (reach.invokeDelegate delegate _).mono Reaches.size_le

/-- A flag that is passed by reference. -/
def Host.Parameter.flag : Parameter := { name := "flag", type := .bool, passing := .byReference }

/-- A method that clears the flag it is given. -/
def Host.Member.clear : Member where
  declaring := 0
  declaringAccess := none
  name := "Clear"
  kind := .method
  isStatic := false
  isPrivate := false
  parameters := [.flag]
  type := .void
  access := none
  rename := none
  implementation := .invoke (.code none [.setArgument 0 (.literal (.constant (.bool false)))])

/-- Script runs with the proxy of a box in hand that holds a flag. -/
def World.withFlag : World where
  store := { cells := #[some (.box .bool (.bool true)),
    some (.proxy ⟨0, .reference (.box 0), none, .none⟩)] }
  engines := #[{ Engine.new "main" {} none with
    session := { frames := (default : FrameStack).push .script, state := .running } }]
  held := [1, 0]

/-- What the method is called with. -/
def flagPassed : Prepared := { arguments := [.bool true], boxes := [(0, 0)] }

/-- The box is passed, and receives what the method leaves. -/
theorem boxes_receive_what_code_leaves_of_flag :
    ((prepare 0 [.flag] [.proxy 1]).outcome .withFlag = (.ok flagPassed, .withFlag) ∧
      (∀ entry ∈ flagPassed.boxes, World.withFlag.store.isLive entry.2 = true) ∧
        (flagPassed.boxes.map Prod.snd).Nodup) ∧
      WritesBack flagPassed
        (useBody (Script.startWithin 1) default (.plain .clear) .call
          (.code none [.setArgument 0 (.literal (.constant (.bool false)))])
          { self := (default : Scene).subject.self, caller := some 0 } [.bool true]) .withFlag
        ((invokeSlot (Script.startWithin 1) 0 default (.plain .clear) flagPassed
          [.proxy 1]).outcome .withFlag) := by
  have prepares : (prepare 0 [.flag] [.proxy 1]).outcome .withFlag =
      (.ok flagPassed, .withFlag) := rfl
  have living : ∀ entry ∈ flagPassed.boxes, World.withFlag.store.isLive entry.2 = true := by decide
  have distinct : (flagPassed.boxes.map Prod.snd).Nodup := by decide
  obtain ⟨-, method, -⟩ := boxes_receive_what_code_leaves 1 0 prepares living distinct
  exact ⟨⟨prepares, living, distinct⟩, method default (.plain .clear) _ rfl⟩

example : (((invokeSlot (Script.startWithin 1) 0 default (.plain .clear) flagPassed
    [.proxy 1]).outcome .withFlag).2.store.boxValue 0) = .bool false := rfl

end ScriptBridge
