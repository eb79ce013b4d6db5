/-
This file proves that what is seen through an interface depends on no annotation of a
class, and what is seen without one on no annotation of an interface. Whatever goes
through such a proxy has the same outcome under annotations that are out of its sight,
as long as what it goes on to start has: a member may answer with a proxy that is not
seen through the interface, and what is then done with the answer is up to that proxy's
own annotations.
-/

import ScriptBridge.Proofs.OperationAgreement
import ScriptBridge.Proofs.Sparing
import ScriptBridge.Script.Module

namespace ScriptBridge

open Host Binding Bridge Run

/-! ### The same outcome -/

namespace Run

variable {Failure Result : Type} {free : Annotated}

/-- Outcomes are the same: the same value or failure, in worlds that differ in annotations only. -/
structure Same (free : Annotated) (outcome twin : Except (Halt Failure) Result × World) : Prop where
  result : outcome.1 = twin.1
  world : outcome.2.Alike free twin.2

theorem Same.symm {outcome twin : Except (Halt Failure) Result × World}
    (same : Same free outcome twin) : Same free twin outcome :=
  ⟨same.result.symm, same.world.symm⟩

theorem Same.trans {first second third : Except (Halt Failure) Result × World}
    (left : Same free first second) (right : Same free second third) : Same free first third :=
  ⟨left.result.trans right.result, left.world.trans right.world⟩

theorem Same.agree {cut : Prop} {outcome twin : Except (Halt Failure) Result × World}
    (same : Same free outcome twin) : Agree free cut Eq outcome twin := by
  obtain ⟨ended, after⟩ := outcome
  obtain ⟨endedTwin, afterTwin⟩ := twin
  obtain ⟨result, world⟩ := same
  cases result
  cases ended with
  | ok value => exact .of_ok rfl world
  | error halt => exact .of_error halt world

/-- Outcomes that agree are the same, unless the first got out of depth. -/
theorem Agree.same {cut : Prop} {outcome twin : Except (Halt Failure) Result × World}
    (agree : Agree free cut Eq outcome twin)
    (ends : ¬cut ∨ outcome.1 ≠ .error .exhausted) : Same free outcome twin := by
  obtain ⟨ended, after⟩ := outcome
  obtain ⟨endedTwin, afterTwin⟩ := twin
  rcases agree with ⟨allowed, short⟩ | ⟨same, alike⟩
  · exact ends.elim (absurd allowed) (absurd short)
  · cases same with
    | ok same =>
      cases same
      exact ⟨rfl, alike⟩
    | error halt => exact ⟨rfl, alike⟩

/-! ### Runs that are let through -/

/-- From all worlds that are like this one the run has the same outcome as from it. -/
def IsEvenAt (free : Annotated) (run : Run Failure Result) (world : World) : Prop :=
  ∀ other : World, world.Alike free other → Same free (run.outcome world) (run.outcome other)

open Classical in
/-- The run, where it is the same whatever the annotations; elsewhere it is out of depth. -/
noncomputable def even (free : Annotated) (run : Run Failure Result) : Run Failure Result :=
  fun world => if IsEvenAt free run world then run world else (.error .exhausted, world)

theorem outcome_even_of_isEvenAt {run : Run Failure Result} {world : World}
    (isEven : run.IsEvenAt free world) : (run.even free).outcome world = run.outcome world :=
  if_pos isEven

theorem outcome_even_of_not {run : Run Failure Result} {world : World}
    (uneven : ¬run.IsEvenAt free world) :
    (run.even free).outcome world = (.error .exhausted, world) :=
  if_neg uneven

/-- What is let through agrees with the run, and what is not is cut off. -/
theorem even_agrees (run : Run Failure Result) :
    Agrees free True Eq (run.even free) run := by
  intro left right alike
  by_cases isEven : run.IsEvenAt free left
  · rw [outcome_even_of_isEvenAt isEven]
    exact (isEven right alike).agree
  · rw [outcome_even_of_not isEven]
    exact .inl ⟨trivial, rfl⟩

theorem IsEvenAt.of_alike {run : Run Failure Result} {world other : World}
    (isEven : run.IsEvenAt free world) (alike : world.Alike free other) :
    run.IsEvenAt free other :=
  fun last further => (isEven other alike).symm.trans (isEven last (alike.trans further))

/-- Whether a run is let through does not depend on annotations either. -/
theorem even_isBlind (run : Run Failure Result) : IsBlind free False (run.even free) := by
  intro left right alike
  by_cases isEven : run.IsEvenAt free left
  · rw [outcome_even_of_isEvenAt isEven, outcome_even_of_isEvenAt (isEven.of_alike alike)]
    exact (isEven right alike).agree
  · have uneven : ¬run.IsEvenAt free right := fun there => isEven (there.of_alike alike.symm)
    rw [outcome_even_of_not isEven, outcome_even_of_not uneven]
    exact .of_error _ alike

/-- A run that does not depend on annotations is let through. -/
theorem even_of_isBlind {run : Run Failure Result} (blind : IsBlind free False run) :
    run.even free = run := by
  funext world
  exact outcome_even_of_isEvenAt fun other alike => (blind alike).same (.inl id)

end Run

/-- The calls that are the same whatever the annotations, and nothing else. -/
noncomputable def Calls.even (free : Annotated) (calls : Calls) : Calls where
  callFunction engine cell arguments := (calls.callFunction engine cell arguments).even free
  callValue engine callee arguments := (calls.callValue engine callee arguments).even free
  assignThrough engine callee keys value := (calls.assignThrough engine callee keys value).even free
  toScript engine value declared := (calls.toScript engine value declared).even free
  toText engine value := (calls.toText engine value).even free
  invokeDelegate cell arguments := (calls.invokeDelegate cell arguments).even free
  evaluate engine source := (calls.evaluate engine source).even free
  importModule engine specifier referrer := (calls.importModule engine specifier referrer).even free

theorem Calls.even_agree (free : Annotated) (calls : Calls) :
    (calls.even free).Agree free True calls where
  callFunction _ _ _ := even_agrees _
  callValue _ _ _ := even_agrees _
  assignThrough _ _ _ _ := even_agrees _
  toScript _ _ _ := even_agrees _
  toText _ _ := even_agrees _
  invokeDelegate _ _ := even_agrees _
  evaluate _ _ := even_agrees _
  importModule _ _ _ := even_agrees _

theorem Calls.even_agree_even (free : Annotated) (calls : Calls) :
    (calls.even free).Agree free False (calls.even free) where
  callFunction _ _ _ := even_isBlind _
  callValue _ _ _ := even_isBlind _
  assignThrough _ _ _ _ := even_isBlind _
  toScript _ _ _ := even_isBlind _
  toText _ _ := even_isBlind _
  invokeDelegate _ _ := even_isBlind _
  evaluate _ _ := even_isBlind _
  importModule _ _ _ := even_isBlind _

section

variable {free : Annotated} {cut : Prop}

theorem exhausted_isBlind {Failure Result : Type} :
    IsBlind free cut (exhausted : Run Failure Result) :=
  fun _ _ alike => .of_error _ alike

/-- What is marshaled does not depend on annotations, however deep it is nested. -/
theorem startWithin_toScript_agrees (depth : Nat) (engine : EngineId) (value : Value)
    (declared : TypeRef) :
    IsBlind free cut ((Script.startWithin depth).toScript engine value declared) := by
  induction depth generalizing value declared with
  | zero => exact exhausted_isBlind
  | succ depth inductionHypothesis => exact toScript_agrees_of inductionHypothesis value declared

/-- Marshaling is let through. -/
theorem startWithin_even_toScript (depth : Nat) :
    ((Script.startWithin depth).even free).toScript = (Script.startWithin depth).toScript := by
  funext engine value declared
  exact even_of_isBlind (startWithin_toScript_agrees depth engine value declared)

end

/-! ### Annotations out of sight -/

/-- Started in the world, the operation comes to its end although none but calls that are the same
whatever the annotations are let through. -/
def Operation.StaysEven (free : Annotated) (calls : Calls) (engine : EngineId) (world : World)
    (operation : Operation) : Prop :=
  ((operation.run (calls.even free) engine).outcome world).1 ≠ .error .exhausted

/-- The operation has the same outcome in both worlds: altogether if what it starts is the same
whatever the annotations, and otherwise up to where it starts something that is not. -/
structure Operation.SameIn (free : Annotated) (calls : Calls) (engine : EngineId)
    (left right : World) (operation : Operation) : Prop where
  begins : Same free ((operation.run (calls.even free) engine).outcome left)
    ((operation.run (calls.even free) engine).outcome right)
  ends : operation.StaysEven free calls engine left →
    Same free ((operation.run calls engine).outcome left)
      ((operation.run calls engine).outcome right)

section

variable {free : Annotated} {calls : Calls} {engine : EngineId} {proxy : CellId}
  {operation : Operation} {left right : World}

/-- An operation that agrees with itself where what it starts does has the same outcome. -/
theorem Operation.sameIn_of_agree
    (here : ∀ {cut : Prop} {calls twin : Calls}, calls.Agree free cut twin →
      Agree free cut Eq ((operation.run calls engine).outcome left)
        ((operation.run twin engine).outcome left))
    (there : ∀ {cut : Prop} {calls twin : Calls}, calls.Agree free cut twin →
      Agree free cut Eq ((operation.run calls engine).outcome left)
        ((operation.run twin engine).outcome right)) :
    operation.SameIn free calls engine left right where
  begins := (there (calls.even_agree_even free)).same (.inl id)
  ends even := by
    have agree := calls.even_agree free
    exact ((here agree).same (.inr even)).symm.trans ((there agree).same (.inr even))

theorem World.Spares.sameIn (spares : left.Spares free proxy) (alike : left.Alike free right)
    (through : operation.proxy? left.store = some proxy) :
    operation.SameIn free calls engine left right :=
  Operation.sameIn_of_agree
    (fun agree => Operation.run_agree agree engine (.refl free left)
      (spares.faces (.refl free left) engine) through)
    fun agree => Operation.run_agree agree engine alike (spares.faces alike engine) through

/-- What is called on an answer is let through again, where the answer leads to a proxy that has
annotations out of its sight too and the call stays even in its turn. -/
theorem Operation.StaysEven.isEvenAt {depth : Nat} {world : World} {callee : Script.Value}
    {arguments : List Script.Value} (even :
      (Operation.call callee arguments).StaysEven free (Script.startWithin depth) engine world)
    (spares : world.Spares free proxy) (leads : callee.proxy? world.store = some proxy) :
    ((Script.startWithin (depth + 1)).callValue engine callee arguments).IsEvenAt free world := by
  intro other alike
  have same : (Operation.call callee arguments).SameIn free (Script.startWithin depth) engine world
      other := spares.sameIn alike leads
  exact same.ends even

end

namespace World

/-- The interface of an item. -/
def itemInterface : HostType where
  name := "Shown"
  kind := .interface
  members := [
    { declaring := 0, declaringAccess := none, name := "Me", kind := .property, isStatic := false
      isPrivate := false, parameters := [], type := .object, access := none, rename := none
      implementation := .abstract }]

/-- A class of items that answer with themselves and have an indexer, with an annotation on both
members. -/
def itemClass (access : Option Access) : HostType where
  name := "Item"
  kind := .reference
  interfaces := [0]
  members := [
    { declaring := 1, declaringAccess := none, name := "Me", kind := .property, isStatic := false
      isPrivate := false, parameters := [], type := .object, access, rename := none
      implementation := .accessor (some (.code none [.answer .self])) none },
    { declaring := 1, declaringAccess := none, name := "Item", kind := .indexer, isStatic := false
      isPrivate := false, parameters := [{ name := "index", type := .numeric .int32 }]
      type := .string, access, rename := none
      implementation := .accessor
        (some (.code none [.answer (.literal (.constant (.string "item")))])) none }]

/-- An engine, an item, and a proxy that shows the item through the interface. -/
def withItem (access : Option Access) : World where
  store := {
    types := ⟨#[itemInterface, itemClass access]⟩
    cells := #[
      some (.object { type := 1 }),
      some (.proxy ⟨0, .reference (.object 0), some 0, .none⟩)] }
  engines := #[Engine.new "A" {} none]
  objects := [("item", .object 0)]

theorem type_withItem_beyond (access : Option Access) (key : TypeKey) :
    (withItem access).store.types.type (key + 2) = default := by
  unfold TypeTable.type
  rw [Array.getElem?_eq_none (Nat.le_add_left 2 key)]
  rfl

end World

end ScriptBridge
