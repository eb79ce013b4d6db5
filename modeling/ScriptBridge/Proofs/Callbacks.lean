/-
This file follows the host's arguments through a callback: a call of a script
function from behind a delegate. Until the function has returned, a failure leaves
every argument as it was. Once it has, those passed by reference in a box are what
their boxes hold, even if the result is no value of the declared type; the others
are as they were. Whether boxes are made is settled by the options of the function's
engine, which no running code changes.
-/

import ScriptBridge.Proofs.WriteBack

namespace ScriptBridge

open Host Run Bridge

/-! ### Options -/

/-- Cells are not used again, and engines have the options that they had. -/
structure World.KeepsOptions (before after : World) : Prop where
  size_le : before.store.cells.size ≤ after.store.cells.size
  options : ∀ engine, (after.engine engine).options = (before.engine engine).options

namespace World.KeepsOptions

variable {before between after : World}

theorem of_ties (ties : before.KeepsTies after) : before.KeepsOptions after :=
  ⟨ties.size_le, ties.options⟩

theorem of_store {world : World} (store : Store)
    (size : store.cells.size = world.store.cells.size) :
    world.KeepsOptions { world with store } :=
  ⟨Nat.le_of_eq size.symm, fun _ => rfl⟩

theorem modifyEngine (world : World) (engine : EngineId) {change : Engine → Engine}
    (options : ∀ state, (change state).options = state.options) :
    world.KeepsOptions (world.modifyEngine engine change) :=
  .of_ties (.modifyEngine world engine options)

end World.KeepsOptions

theorem Engine.options_dispose (engine : Engine) : engine.dispose.options = engine.options := by
  unfold Engine.dispose
  split
  · rfl
  · rfl

instance : RunRelation World.KeepsOptions where
  refl _ := .of_ties (.refl _)
  trans first second := ⟨Nat.le_trans first.size_le second.size_le,
    fun engine => (second.options engine).trans (first.options engine)⟩
  held _ _ := .of_ties (.of_same rfl rfl)

instance : ChangeRelation World.KeepsOptions where
  change _ _ ties _ := .of_ties ties

theorem World.Connects.keepsOptions {before after : World} (connects : before.Connects after) :
    before.KeepsOptions after := by
  cases connects with
  | @connect start between use cell handler object type earlier _ _ _ _ _ later =>
    have attached : start.KeepsOptions { start with
        history := .used use :: start.history
        store := start.store.put cell
          (.object (object.attach use.slot.implementation.name handler)) } :=
      ⟨Nat.le_of_eq (Store.size_put _ _ _).symm, fun _ => rfl⟩
    refine RunRelation.trans earlier.related
      (RunRelation.trans attached (RunRelation.trans later.related ⟨?_, fun _ => rfl⟩))
    show _ ≤ (between.store.create _).1.cells.size
    rw [Store.size_create]
    exact Nat.le_succ _

theorem World.Disconnects.keepsOptions {cell : CellId} {bond : Connection} {before after : World}
    (disconnects : World.Disconnects cell bond before after) : before.KeepsOptions after := by
  cases disconnects with
  | detach => exact .of_store _ ((Store.size_put _ _ _).trans (Store.size_put _ _ _))
  | gone => exact .of_store _ (Store.size_put _ _ _)

instance : ModuleRelation World.KeepsOptions where
  step _ _ _ ties _ := .of_ties ties
  connect connects := connects.keepsOptions
  disconnect disconnects := disconnects.keepsOptions
  convey _ _ makings _ _ := makings.related fun _ _ ties => .of_ties ties
  dispose world engine := .modifyEngine world engine Engine.options_dispose
  modules world engine _ := .modifyEngine world engine fun _ => rfl

namespace Script

/-! ### Boxes of arguments -/

/-- Is the argument at a place passed in a box? It is if it is passed by reference and the engine
makes boxes. -/
def passesBox (options : Options) (signature : Signature) (place : Nat) : Bool :=
  (argumentShape signature place).2 && options.autoBoxes

/-- The boxes of so many arguments from a place on: one for each that is passed in a box, in the
order of places, and each newer than those before. -/
structure AreBoxes (options : Options) (signature : Signature) (first count size : Nat)
    (boxes : List (Nat × CellId)) : Prop where
  places : boxes.map Prod.fst = (List.range' first count).filter (passesBox options signature)
  fresh : ∀ entry ∈ boxes, size ≤ entry.2
  distinct : (boxes.map Prod.snd).Nodup

namespace AreBoxes

variable {options : Options} {signature : Signature} {first count size larger box : Nat}
  {boxes : List (Nat × CellId)}

/-- An argument in a box comes before others. -/
theorem boxed (others : AreBoxes options signature (first + 1) count larger boxes)
    (passes : passesBox options signature first = true) (grown : size ≤ box)
    (newer : box < larger) :
    AreBoxes options signature first (count + 1) size ((first, box) :: boxes) where
  places := by
    rw [List.map_cons, List.range'_succ, List.filter_cons, if_pos passes, others.places]
  fresh entry listed := by
    rcases List.mem_cons.mp listed with rfl | listed
    · exact grown
    · exact Nat.le_trans grown (Nat.le_trans (Nat.le_of_lt newer) (others.fresh entry listed))
  distinct := by
    refine List.nodup_cons.mpr ⟨fun listed => ?_, others.distinct⟩
    obtain ⟨entry, listed, same⟩ := List.mem_map.mp listed
    exact absurd (others.fresh entry listed) (Nat.not_le.mpr (same ▸ newer))

/-- An argument without a box comes before others. -/
theorem plain (others : AreBoxes options signature (first + 1) count larger boxes)
    (passes : ¬passesBox options signature first = true) (grown : size ≤ larger) :
    AreBoxes options signature first (count + 1) size boxes where
  places := by
    rw [List.range'_succ, List.filter_cons, if_neg passes, others.places]
  fresh entry listed := Nat.le_trans grown (others.fresh entry listed)
  distinct := others.distinct

end AreBoxes

/-- Every argument that is passed in a box gets one of its own. -/
theorem callbackArguments_areBoxes {calls : Calls} (reach : calls.Reach World.KeepsOptions)
    {engine : EngineId} {signature : Signature} {first : Nat} {arguments : List Host.Value}
    {world after : World} {values : List Value} {boxes : List (Nat × CellId)}
    (ran : (callbackArguments calls engine signature first arguments).outcome world =
      (.ok (values, boxes), after)) :
    AreBoxes (world.engine engine).options signature first arguments.length
      world.store.cells.size boxes := by
  induction arguments generalizing first world values boxes with
  | nil =>
    cases ran
    exact ⟨rfl, nofun, .nil⟩
  | cons argument rest inductionHypothesis =>
    have marshals {value : Host.Value} {type : TypeRef} {given : Value} {world between : World}
        (ran : (held (toScript calls engine value type)).outcome world = (.ok given, between)) :
        world.KeepsOptions between := by
      have keeps := Leaves.held (toScript_reaches reach engine value type) world
      rw [ran] at keeps
      exact keeps
    unfold callbackArguments at ran
    rw [outcome_bind_of_ok (outcome_engine engine world)] at ran
    split at ran
    · next passes =>
      obtain ⟨box, created, made, ran⟩ := outcome_bind_eq_ok.mp ran
      obtain ⟨value, between, given, ran⟩ := outcome_bind_eq_ok.mp ran
      obtain ⟨⟨others, more⟩, last, went, ran⟩ := outcome_bind_eq_ok.mp ran
      have keeps := marshals given
      cases ran
      obtain ⟨here, size, same⟩ : box = world.store.cells.size ∧
          created.store.cells.size = world.store.cells.size + 1 ∧
            (created.engine engine).options = (world.engine engine).options := by
        cases made
        exact ⟨rfl, Store.size_create _ _, rfl⟩
      have areBoxes := inductionHypothesis went
      rw [keeps.options, same] at areBoxes
      refine areBoxes.boxed passes (Nat.le_of_eq here.symm) (Nat.lt_of_lt_of_le ?_ keeps.size_le)
      rw [here, size]
      exact Nat.lt_succ_self _
    · next passes =>
      obtain ⟨value, between, given, ran⟩ := outcome_bind_eq_ok.mp ran
      obtain ⟨⟨others, more⟩, last, went, ran⟩ := outcome_bind_eq_ok.mp ran
      have keeps := marshals given
      cases ran
      have areBoxes := inductionHypothesis went
      rw [keeps.options] at areBoxes
      exact areBoxes.plain passes keeps.size_le

/-! ### What boxes leave -/

/-- An argument without a box is as it was. -/
theorem receiveBoxes_of_unlisted {store : Store} {boxes : List (Nat × CellId)}
    {arguments : List Host.Value} {place : Nat} (unlisted : place ∉ boxes.map Prod.fst) :
    (receiveBoxes store boxes arguments)[place]? = arguments[place]? := by
  unfold receiveBoxes
  induction boxes generalizing arguments with
  | nil => rfl
  | cons entry rest inductionHypothesis =>
    rw [List.map_cons, List.mem_cons, not_or] at unlisted
    rw [List.foldl_cons, inductionHypothesis unlisted.2]
    exact List.getElem?_set_ne (Ne.symm unlisted.1)

/-- An argument in a box is what the box holds. -/
theorem receiveBoxes_of_mem {store : Store} {boxes : List (Nat × CellId)}
    {arguments : List Host.Value} {place : Nat} {box : CellId}
    (distinct : (boxes.map Prod.fst).Nodup) (listed : (place, box) ∈ boxes)
    (inside : place < arguments.length) :
    (receiveBoxes store boxes arguments)[place]? = some (store.boxValue box) := by
  induction boxes generalizing arguments with
  | nil => cases listed
  | cons entry rest inductionHypothesis =>
    obtain ⟨alone, others⟩ := List.nodup_cons.mp distinct
    rcases List.mem_cons.mp listed with rfl | listed
    · exact (receiveBoxes_of_unlisted alone).trans (List.getElem?_set_self inside)
    · exact inductionHypothesis others listed (Nat.lt_of_lt_of_eq inside List.length_set.symm)

/-! ### How callbacks end -/

/-- The part of a callback that the function takes. -/
abbrev runOwned (calls : Calls) (function : CellId) (signature : Signature)
    (arguments : List Host.Value) (contents : Function) :
    ScriptRun (Value × List (Nat × CellId)) := do
  requireOwner contents
  runCallback calls contents.engine function signature arguments

/-- How a callback ends, and what becomes of the host's arguments: they are as they were if it fails
before the function has returned. Once it has, those that are passed in a box are what their boxes
hold at that moment, whatever comes of the result, and the others are as they were. -/
inductive CallbackEnds (calls : Calls) (function : CellId) (signature : Signature)
    (arguments : List Host.Value) (world : World) :
    Except (Halt ScriptError) (Except ScriptError Host.Value × List Host.Value) × World → Prop
  | unending {after : World} : CallbackEnds calls function signature arguments world
      (.error .exhausted, after)
  | failed {error : ScriptError} {left after : World}
      (ran : (runOwned calls function signature arguments
        (world.store.function function)).outcome world = (.error (.raised error), left)) :
      CallbackEnds calls function signature arguments world (.ok (.error error, arguments), after)
  | returned {result : Value} {boxes : List (Nat × CellId)} {returns left after : World}
      {answer : Except ScriptError Host.Value} {given : List Host.Value}
      (ran : (runOwned calls function signature arguments
        (world.store.function function)).outcome world = (.ok (result, boxes), returns))
      (answers : (settle (callbackResult (world.store.function function).engine signature result) :
        ScriptRun (Except ScriptError Host.Value)).outcome returns = (.ok answer, left))
      (length : given.length = arguments.length)
      (plain : ∀ place, passesBox (world.engine (world.store.function function).engine).options
        signature place = false → given[place]? = arguments[place]?)
      (boxed : ∀ place < arguments.length,
        passesBox (world.engine (world.store.function function).engine).options
          signature place = true → ∃ box, (place, box) ∈ boxes ∧
            world.store.cells.size ≤ box ∧ given[place]? = some (returns.store.boxValue box))
      (distinct : (boxes.map Prod.snd).Nodup) :
      CallbackEnds calls function signature arguments world (.ok (answer, given), after)

/-- A check of the owner changes nothing. -/
theorem outcome_requireOwner (contents : Function) (world : World) :
    (requireOwner contents).outcome world = (.ok (), world) ∨
      ∃ error, (requireOwner contents).outcome world = (.error (.raised error), world) := by
  unfold requireOwner
  rw [outcome_bind_of_ok (outcome_engine contents.engine world)]
  split
  · exact .inr ⟨_, rfl⟩
  · exact .inl rfl

/-- A function that has returned was given its arguments in the boxes that come with the result. -/
theorem runOwned_areBoxes {calls : Calls} (reach : calls.Reach World.KeepsOptions)
    {function : CellId} {signature : Signature} {arguments : List Host.Value} {contents : Function}
    {world returns : World} {result : Value} {boxes : List (Nat × CellId)}
    (ran : (runOwned calls function signature arguments contents).outcome world =
      (.ok (result, boxes), returns)) :
    AreBoxes (world.engine contents.engine).options signature 0 arguments.length
      world.store.cells.size boxes := by
  obtain ⟨_, checked, owned, went⟩ := outcome_bind_eq_ok.mp ran
  obtain rfl : checked = world := by
    rcases outcome_requireOwner contents world with passes | ⟨error, fails⟩
    · rw [passes] at owned
      cases owned
      rfl
    · rw [fails] at owned
      cases owned
  unfold runCallback at went
  obtain ⟨⟨values, made⟩, between, prepared, went⟩ := outcome_bind_eq_ok.mp went
  obtain ⟨answer, last, _, went⟩ := outcome_bind_eq_ok.mp went
  cases went
  exact callbackArguments_areBoxes reach prepared

namespace AreBoxes

variable {options : Options} {signature : Signature} {count size : Nat}
  {boxes : List (Nat × CellId)}

theorem nodup_places {first : Nat} (areBoxes : AreBoxes options signature first count size boxes) :
    (boxes.map Prod.fst).Nodup := by
  rw [areBoxes.places]
  exact (List.nodup_range' 1).filter _

/-- A place has a box exactly if its argument is passed in one. -/
theorem mem_places_iff (areBoxes : AreBoxes options signature 0 count size boxes) {place : Nat} :
    place ∈ boxes.map Prod.fst ↔ place < count ∧ passesBox options signature place = true := by
  rw [areBoxes.places, List.mem_filter, List.mem_range'_1, Nat.zero_add]
  exact ⟨fun ⟨⟨_, inside⟩, passes⟩ => ⟨inside, passes⟩,
    fun ⟨inside, passes⟩ => ⟨⟨Nat.zero_le _, inside⟩, passes⟩⟩

end AreBoxes

/-- Callbacks leave the host's arguments as they were if the function does not return; if it does,
what they leave in boxes is all that changes. -/
theorem callbacks_leave_arguments (depth : Nat) (function : CellId) (signature : Signature)
    (arguments : List Host.Value) (world : World) :
    CallbackEnds (startWithin depth) function signature arguments world
      ((tryCallBack (startWithin depth) function signature arguments).outcome world) := by
  unfold tryCallBack
  rw [outcome_scope, outcome_bind_of_ok (outcome_readStore _ world), outcome_bind, outcome_settle]
  rcases ran : (runOwned (startWithin depth) function signature arguments
    (world.store.function function)).outcome world with ⟨(error | _) | ⟨result, boxes⟩, returns⟩
  · exact .failed ran
  · exact .unending
  · have areBoxes := runOwned_areBoxes (startWithin_goes depth) ran
    show CallbackEnds _ _ _ _ _ (Prod.fst (Run.outcome _ returns), _)
    rw [outcome_bind_of_ok (outcome_readStore _ returns), outcome_bind]
    rcases answers : (settle (callbackResult (world.store.function function).engine signature
      result) : ScriptRun (Except ScriptError Host.Value)).outcome returns with
      ⟨(error | _) | answer, left⟩
    · rw [outcome_settle] at answers
      split at answers <;> cases answers
    · exact .unending
    · refine .returned ran answers (length_receiveBoxes _ _ _) (fun place plain => ?_)
        (fun place inside passes => ?_) areBoxes.distinct
      · refine receiveBoxes_of_unlisted fun listed => ?_
        rw [areBoxes.mem_places_iff, plain] at listed
        exact Bool.false_ne_true listed.2
      · obtain ⟨⟨listed, box⟩, member, rfl⟩ :=
          List.mem_map.mp (areBoxes.mem_places_iff.mpr ⟨inside, passes⟩)
        exact ⟨box, member, areBoxes.fresh _ member,
          receiveBoxes_of_mem areBoxes.nodup_places member inside⟩

end Script

/-! ### A callback whose result is of no use -/

/-- A world with a function that assigns to its first argument, replaces the first item of its
second and returns a text, on an engine that makes boxes. -/
def World.withConverter : World where
  store := { cells := #[some (.function ⟨"convert", 0, .script "main", .sequence [
      .set (.argument 0) "value" (.int 77), .setIndex (.argument 1) [.int 0] (.int 5),
      .string "x"]⟩),
    some (.hostArray (.numeric .int32) #[.integer (.wrap32 1)])] }
  engines := #[Engine.new "main" { autoBoxes := true } none]
  held := [1, 0]

/-- The signature of a delegate that takes a number by reference and an array, and gives a
number. -/
def converterSignature : Signature where
  parameters := [⟨"amount", .numeric .int32, .byReference, none, false⟩,
    ⟨"items", .array (.numeric .int32), .byValue, none, false⟩]
  result := .numeric .int32

/-- What the function is called with. -/
def converterArguments : List Host.Value := [.integer (.wrap32 1), .array 1]

/-- What becomes of the arguments of a callback that fails. -/
def argumentsLeft? :
    Except (Halt ScriptError) (Except ScriptError Host.Value × List Host.Value) →
      Option (List Host.Value)
  | .ok (.error _, left) => some left
  | _ => none

/-- A text is no number, so the callback fails; the argument in a box is another one afterwards, and
the array that is the other argument has another item. -/
theorem failed_callback_changes_arguments :
    ∃ error left after,
      (Script.tryCallBack (Script.startWithin 4) 0 converterSignature converterArguments).outcome
        .withConverter = (.ok (.error error, left), after) ∧
      left ≠ converterArguments ∧
      (after.store.hostItems 1).toList.map Host.Value.toInt? = [some 5] := by
  have evaluated : let ends := (Script.tryCallBack (Script.startWithin 4) 0 converterSignature
        converterArguments).outcome .withConverter
      (argumentsLeft? ends.1).map (·.map Host.Value.toInt?) = some [some 77, none] ∧
        (ends.2.store.hostItems 1).toList.map Host.Value.toInt? = [some 5] := by
    decide +kernel
  rcases ends : (Script.tryCallBack (Script.startWithin 4) 0 converterSignature
    converterArguments).outcome .withConverter with ⟨halt | ⟨error | value, left⟩, after⟩
  · rw [ends] at evaluated
    cases evaluated.1
  · rw [ends] at evaluated
    obtain ⟨numbers, items⟩ := evaluated
    refine ⟨error, left, after, rfl, fun same => ?_, items⟩
    have numbers : left.map Host.Value.toInt? = [some 77, none] := Option.some.inj numbers
    rw [same] at numbers
    exact absurd numbers (by decide)
  · rw [ends] at evaluated
    cases evaluated.1

end ScriptBridge
