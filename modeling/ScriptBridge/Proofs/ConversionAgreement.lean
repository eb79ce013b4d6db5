/-
This file shows that conversions and the choice among overloads do not depend on
annotations: what a value converts to is a matter of its type, and which overload takes
the arguments one of parameters. Of slots that have the same parameters in pairs, the two of a pair
are chosen, with the same arguments made ready.
-/

import Mathlib.Data.List.Forall2
import ScriptBridge.Binding.Overload
import ScriptBridge.Proofs.Agreement

namespace ScriptBridge

open Run Host Conversion

variable {free : Annotated} {cut : Prop} {Failure Result : Type}

namespace Bridge

/-! ### Conversions -/

theorem boxedValue?_agrees (value : Script.Value) :
    IsBlind free cut (boxedValue? value : Run Failure (Option Value)) := by
  cases value with
  | proxy cell => exact .bind_same (.observe fun _ => rfl) fun _ => .pure _
  | _ => exact .pure _

theorem carry_agrees (value : Script.Value) :
    IsBlind free cut (carry value : Run Failure Value) :=
  .bind_same (.create _) fun _ => .pure _

theorem toHostValue_agrees (engine : EngineId) (value : Script.Value) :
    IsBlind free cut (toHostValue engine value : Run Failure Value) := by
  cases value with
  | date millis =>
    refine .bind_same (.engine engine) fun state => ?_
    split
    · exact .pure _
    · exact carry_agrees _
  | proxy cell =>
    refine .bind_same (.observe fun _ => rfl) fun found => ?_
    cases found with
    | ok target => exact .hold _
    | error error => exact .pure _
  | array cell => exact carry_agrees _
  | object cell => exact carry_agrees _
  | function cell => exact carry_agrees _
  | member cell => exact carry_agrees _
  | _ => exact .pure _

theorem toHostValues_agrees (engine : EngineId) (values : List Script.Value) :
    IsBlind free cut (toHostValues engine values : Run Failure (List Value)) := by
  induction values with
  | nil => exact .pure _
  | cons value rest inductionHypothesis =>
    refine .bind_same (toHostValue_agrees engine value) fun converted => ?_
    exact .bind_same inductionHypothesis fun others => .pure _

theorem incompatible_agrees {Result : Type} (value : Script.Value) (target : TypeRef) :
    IsBlind free cut (incompatible value target : ConversionRun Result) :=
  .bind_same (.describe value) fun _ =>
    .bind_types (fun table => by simp only [TypeTable.display_bare]) fun _ => .raise _

theorem delegateFor_agrees (function : CellId) (type : TypeKey) :
    IsBlind free cut (delegateFor function type) := by
  refine .bind_types (fun table => ?_) fun table => ?_
  · simp only [TypeTable.type_bare, HostType.isDelegate_bare, HostType.name_bare]
  · split
    · exact .create _
    · exact .bind_same (.readStore fun _ => rfl) fun _ => .raise _

theorem toNumeric_agrees (value : Script.Value) (boxed : Option Value) (kind : Number.Kind) :
    IsBlind free cut (toNumeric value boxed kind) := by
  have refuse : IsBlind free cut (incompatible value (.numeric kind) : ConversionRun Converted) :=
    incompatible_agrees value _
  unfold toNumeric
  dsimp only
  split
  · exact .bind_same (.ofExcept _) fun _ => .pure _
  · split
    · exact refuse
    · exact .bind_same (.ofExcept _) fun _ => .pure _
  · split
    · split
      · exact .raise _
      · exact .bind_same (.ofExcept _) fun _ => .pure _
    · exact refuse
  · exact refuse

theorem chainDistance_bare (table : TypeTable) (actual : TypeRef) (expected : TypeKey) :
    chainDistance table.bare actual expected = chainDistance table actual expected := by
  unfold chainDistance
  simp only [TypeTable.chain_bare]

theorem toNamed_agrees (value : Script.Value) (boxed : Option Value) (key : TypeKey) :
    IsBlind free cut (toNamed value boxed key) := by
  refine .bind_store (fun store => ?_) fun store => ?_
  · simp only [Store.isInstance_bare, Store.types_bare, chainDistance_bare, Store.typeOf_bare,
      TypeTable.type_bare, HostType.isDelegate_bare]
  · dsimp only
    split
    · exact .pure _
    · split
      · exact .bind_same (delegateFor_agrees _ _) fun _ => .pure _
      · exact incompatible_agrees _ _
    · exact incompatible_agrees _ _

theorem convertItems_agrees {convert : Script.Value → ConversionRun Converted}
    (converts : ∀ item, IsBlind free cut (convert item)) (rule : Rule)
    (items : List Script.Value) : IsBlind free cut (convertItems convert rule items) := by
  induction items generalizing rule with
  | nil => exact .pure _
  | cons item rest inductionHypothesis =>
    refine .bind_same (.held (converts item)) fun converted => ?_
    exact .bind_same (inductionHypothesis _) fun others => .pure _

theorem toHostNullish_agrees (value : Script.Value) (target : TypeRef) :
    IsBlind free cut (toHostNullish value target) := by
  unfold toHostNullish
  dsimp only
  split
  · exact .pure _
  · refine .bind_types (fun table => by simp only [TypeTable.acceptsNull_bare]) fun table => ?_
    split
    · exact .pure _
    · exact incompatible_agrees _ _

theorem toArray_agrees {convert : Script.Value → ConversionRun Converted}
    (converts : ∀ item, IsBlind free cut (convert item)) (value : Script.Value)
    (boxed : Option Value) (element : TypeRef) :
    IsBlind free cut (toArray convert value boxed element) := by
  refine .bind_store (fun store => ?_) fun store => ?_
  · simp only [Store.typeOf_bare]
    rfl
  · dsimp only
    split
    · exact .pure _
    · refine .bind_same (convertItems_agrees converts _ _) fun converted => ?_
      exact .bind_same (.create _) fun _ => .pure _
    · exact incompatible_agrees _ _

theorem toBox_agrees (value : Script.Value) (boxed : Option Value) (inner : TypeRef) :
    IsBlind free cut (toBox value boxed inner) := by
  refine .bind_store (fun store => by simp only [Store.typeOf_bare]) fun store => ?_
  split
  · exact .pure _
  · exact incompatible_agrees _ _

theorem toPlain_agrees (value : Script.Value) (boxed : Option Value) (target : TypeRef) :
    IsBlind free cut (toPlain value boxed target) := by
  unfold toPlain
  split
  case h_3 =>
    split
    · exact .pure _
    · exact incompatible_agrees _ _
  case h_6 =>
    split
    · exact .pure _
    · exact .bind_types (fun table => by simp only [TypeTable.display_bare]) fun _ => .raise _
  case h_11 => exact incompatible_agrees _ _
  all_goals exact .pure _

/-- A conversion to a declared type does not depend on annotations. -/
theorem toHost_agrees (engine : EngineId) (value : Script.Value) (target : TypeRef) :
    IsBlind free cut (toHost engine value target) := by
  induction target generalizing value
  all_goals
    unfold toHost
    split
    · exact toHostNullish_agrees _ _
    refine .bind_same (.held (boxedValue?_agrees value)) fun _ => ?_
  case nullable inner inductionHypothesis _ _ => exact inductionHypothesis value
  case array element inductionHypothesis _ _ => exact toArray_agrees inductionHypothesis _ _ _
  case box => exact toBox_agrees _ _ _
  case numeric => exact toNumeric_agrees _ _ _
  case named => exact toNamed_agrees _ _ _
  case object => exact .bind_same (toHostValue_agrees engine value) fun _ => .pure _
  case dynamic => exact .bind_same (toHostValue_agrees engine value) fun _ => .pure _
  all_goals exact toPlain_agrees _ _ _

/-- A script value converted to a declared type, in use from then on. -/
theorem converted_agrees (engine : EngineId) (value : Script.Value) (target : TypeRef) :
    IsBlind free cut (held (converting (toHost engine value target))) :=
  .held (.mapFailure (fun _ => rfl) (toHost_agrees engine value target))

end Bridge

namespace Binding

open Bridge

/-! ### Arguments -/

theorem matched_agrees (engine : EngineId) (value : Script.Value) (target : TypeRef) :
    IsBlind free cut (held (matching (toHost engine value target))) :=
  .held (.mapFailure (fun _ => rfl) (toHost_agrees engine value target))

theorem convertArgument_agrees (engine : EngineId) (prepared : Prepared) (type : TypeRef)
    (argument : Script.Value) : IsBlind free cut (convertArgument engine prepared type argument) :=
  .bind_same (matched_agrees engine argument type) fun _ => .pure _

theorem boxOf?_agrees (argument : Script.Value) : IsBlind free cut (boxOf? argument) := by
  refine .bind_same (boxedValue?_agrees argument) fun boxed => ?_
  split
  · exact .pure _
  · exact .pure _

theorem prepareArgument_agrees (engine : EngineId) (prepared : Prepared) (parameter : Parameter)
    (argument : Script.Value) :
    IsBlind free cut (prepareArgument engine prepared parameter argument) := by
  unfold prepareArgument
  split
  · exact convertArgument_agrees engine prepared _ argument
  · refine .bind_types (fun table => ?_) fun table => ?_
    · simp only [TypeTable.display_bare, TypeTable.initial_bare]
    · refine .bind_same (boxOf?_agrees argument) fun box => ?_
      dsimp only
      split
      · refine .bind_same (.readStore fun _ => rfl) fun boxType => ?_
        split
        · exact .raise _
        · refine .bind_same (.readStore fun _ => rfl) fun _ => ?_
          exact .bind_same (.hold _) fun _ => .pure _
      · exact .pure _
      · exact convertArgument_agrees engine prepared _ argument

theorem convertLoose_agrees (engine : EngineId) (element : TypeRef) (cost : Cost)
    (arguments : List Script.Value) :
    IsBlind free cut (convertLoose engine element cost arguments) := by
  induction arguments generalizing cost with
  | nil => exact .pure _
  | cons argument rest inductionHypothesis =>
    refine .bind_same (matched_agrees engine argument element) fun converted => ?_
    exact .bind_same (inductionHypothesis _) fun others => .pure _

theorem collectLoose_agrees (engine : EngineId) (prepared : Prepared) (parameter : Parameter)
    (arguments : List Script.Value) :
    IsBlind free cut (collectLoose engine prepared parameter arguments) :=
  .bind_same (convertLoose_agrees engine _ _ _) fun _ => .bind_same (.create _) fun _ => .pure _

theorem collected_agrees (engine : EngineId) (prepared : Prepared) (parameter : Parameter)
    (arguments : List Script.Value) (direct : Except Mismatch Converted) :
    IsBlind free cut
      (match direct with
      | .ok converted => pure (prepared.add converted.value converted.rule converted.penalty)
      | .error _ => collectLoose engine prepared parameter arguments : Run Mismatch Prepared) := by
  cases direct with
  | ok converted => exact .pure _
  | error mismatch => exact collectLoose_agrees engine prepared parameter arguments

theorem collectArguments_agrees (engine : EngineId) (prepared : Prepared) (parameter : Parameter)
    (arguments : List Script.Value) :
    IsBlind free cut (collectArguments engine prepared parameter arguments) := by
  unfold collectArguments
  split
  · exact .bind_same (.settle (matched_agrees engine _ _)) (collected_agrees engine _ _ _)
  · exact .bind_same (.pure _) (collected_agrees engine _ _ _)

theorem prepareFrom_agrees (engine : EngineId) (prepared : Prepared) (parameters : List Parameter)
    (arguments : List Script.Value) :
    IsBlind free cut (prepareFrom engine prepared parameters arguments) := by
  induction parameters generalizing prepared arguments with
  | nil => exact .pure _
  | cons parameter rest inductionHypothesis =>
    unfold prepareFrom
    split
    · exact collectArguments_agrees engine prepared parameter arguments
    · split
      · exact inductionHypothesis _ _
      · exact .bind_same (prepareArgument_agrees engine prepared parameter _) fun next =>
          inductionHypothesis _ _

/-- Making arguments ready does not depend on annotations. -/
theorem prepare_agrees (engine : EngineId) (parameters : List Parameter)
    (arguments : List Script.Value) : IsBlind free cut (prepare engine parameters arguments) := by
  unfold prepare
  split
  · exact prepareFrom_agrees engine _ _ _
  · exact .raise _

/-- Boxes take arguments back alike, and leave the types. -/
theorem bare_putBack (arguments : List Value) (boxes : List (Nat × CellId)) (store : Store) :
    let put (store : Store) (entry : Nat × CellId) : Store :=
      match arguments[entry.1]? with
      | some value => store.setBox entry.2 value
      | none => store
    (boxes.foldl put store).bare = boxes.foldl put store.bare ∧
      (boxes.foldl put store).types = store.types := by
  intro put
  have step (store : Store) (entry : Nat × CellId) :
      (put store entry).bare = put store.bare entry ∧ (put store entry).types = store.types := by
    dsimp only [put]
    cases arguments[entry.1]? <;> exact ⟨rfl, rfl⟩
  induction boxes generalizing store with
  | nil => exact ⟨rfl, rfl⟩
  | cons entry rest inductionHypothesis =>
    rw [List.foldl_cons, List.foldl_cons, ← (step store entry).1, ← (step store entry).2]
    exact inductionHypothesis _

/-- Putting arguments back changes boxes only. -/
theorem writeBack_agrees {Failure : Type} (prepared : Prepared) (arguments : List Value) :
    IsBlind free cut (writeBack prepared arguments : Run Failure Unit) :=
  .modifyStore (prepared.boxes.foldl _ ·) (fun store => (bare_putBack arguments _ store).1)
    fun store => (bare_putBack arguments _ store).2

/-! ### Choice -/

/-- Matches are alike: of slots that are paired, with the same arguments made ready. -/
structure Match.Alike (free : Annotated) (paired : Slot → Slot → Prop) (left right : Match) :
    Prop where
  slot : paired left.slot right.slot
  prepared : left.prepared = right.prepared
  world : left.world.Alike free right.world

variable {paired : Slot → Slot → Prop}

/-- Candidates take arguments alike where they have the same parameters. -/
theorem attempt_alike {left right : World} (alike : left.Alike free right) (engine : EngineId)
    (arguments : List Script.Value) {slot twin : Slot} (pair : paired slot twin)
    (same : slot.implementation.parameters = twin.implementation.parameters) :
    EndAlike (Match.Alike free paired) (attempt engine arguments left slot)
      (attempt engine arguments right twin) := by
  have agrees : Agree free False Eq
      (prepare engine twin.implementation.parameters arguments left)
      (prepare engine twin.implementation.parameters arguments right) :=
    prepare_agrees engine twin.implementation.parameters arguments alike
  unfold attempt
  rw [same]
  generalize prepare engine twin.implementation.parameters arguments left = outcome at agrees ⊢
  generalize prepare engine twin.implementation.parameters arguments right = other at agrees ⊢
  obtain ⟨ended, after⟩ := outcome
  obtain ⟨endedTwin, afterTwin⟩ := other
  rcases agrees with ⟨allowed, -⟩ | ⟨ending, worlds⟩
  · exact allowed.elim
  · cases ending with
    | ok prepared => exact .ok ⟨pair, prepared, worlds⟩
    | error halt => exact .error halt

/-- The cheapest of matches that are alike are alike. -/
theorem cheapest_alike {left right : List Match}
    (alike : List.Forall₂ (Match.Alike free paired) left right) :
    List.Forall₂ (Match.Alike free paired) (cheapest left) (cheapest right) := by
  unfold cheapest
  refine List.rel_foldl (fun best bestTwin alikeBest next nextTwin same => ?_) .nil alike
  cases alikeBest with
  | nil => exact .cons same .nil
  | @cons first firstTwin _ _ sameFirst rest =>
    dsimp only
    rw [same.prepared, sameFirst.prepared]
    cases nextTwin.prepared.cost.compare firstTwin.prepared.cost with
    | lt => exact .cons same .nil
    | eq => exact List.rel_append (.cons sameFirst rest) (.cons same .nil)
    | gt => exact .cons sameFirst rest

/-- The same error is told where no candidate matches. -/
theorem unmatched_alike {left right : List (Except (Halt Mismatch) Match)}
    (alike : List.Forall₂ (EndAlike (Match.Alike free paired)) left right) (name : String)
    (declared : Nat) : unmatched name declared left = unmatched name declared right := by
  cases alike with
  | nil => rfl
  | cons first rest =>
    cases rest with
    | nil =>
      cases first with
      | ok same => rfl
      | error halt => rfl
    | cons second others =>
      cases first with
      | ok same => rfl
      | error halt =>
        cases halt with
        | raised error => cases error <;> rfl
        | exhausted => rfl

/-- Among candidates that take the arguments alike, ones that are alike are chosen. -/
theorem choose_alike {left right : List (Except (Halt Mismatch) Match)}
    (alike : List.Forall₂ (EndAlike (Match.Alike free paired)) left right) (name : String)
    (declared : Nat) :
    (∃ best twin, choose name declared left = .ok best ∧ choose name declared right = .ok twin ∧
        best.Alike free paired twin) ∨
      ∃ error, choose name declared left = .error error ∧
        choose name declared right = .error error := by
  have matches_ : List.Forall₂ (Match.Alike free paired) (left.filterMap Except.toOption)
      (right.filterMap Except.toOption) := by
    induction alike with
    | nil => exact .nil
    | cons first _ inductionHypothesis =>
      cases first with
      | ok same => exact .cons same inductionHypothesis
      | error halt => exact inductionHypothesis
  have best := cheapest_alike matches_
  unfold choose
  generalize cheapest (left.filterMap Except.toOption) = chosen at best ⊢
  generalize cheapest (right.filterMap Except.toOption) = chosenTwin at best ⊢
  cases best with
  | nil => exact .inr ⟨_, rfl, congrArg _ (unmatched_alike alike name declared).symm⟩
  | cons first rest =>
    cases rest with
    | nil => exact .inl ⟨_, _, rfl, rfl, first⟩
    | cons second others => exact .inr ⟨_, rfl, rfl⟩

/-- What an overload that is chosen and its arguments have in common with another's. -/
def ChosenAlike (paired : Slot → Slot → Prop) (left right : Slot × Prepared) : Prop :=
  paired left.1 right.1 ∧ left.2 = right.2

/-- The choice among slots depends on nothing but their parameters. -/
theorem resolve_agrees (engine : EngineId) (name : String) {candidates twins : List Slot}
    (pairs : List.Forall₂ paired candidates twins)
    (same : ∀ {slot twin}, paired slot twin →
      slot.implementation.parameters = twin.implementation.parameters)
    (declared : Nat) (arguments : List Script.Value) :
    Agrees free cut (ChosenAlike paired) (resolve engine name candidates declared arguments)
      (resolve engine name twins declared arguments) := by
  intro left right alike
  have attempts : List.Forall₂ (EndAlike (Match.Alike free paired))
      (candidates.map (attempt engine arguments left))
      (twins.map (attempt engine arguments right)) := by
    rw [List.forall₂_map_left_iff, List.forall₂_map_right_iff]
    exact pairs.imp fun slot twin pair => attempt_alike alike engine arguments pair (same pair)
  show Agree free cut (ChosenAlike paired) (resolve engine name candidates declared arguments left)
    (resolve engine name twins declared arguments right)
  unfold resolve
  rcases choose_alike attempts name declared with
    ⟨best, twin, chosen, chosenTwin, alikeMatches⟩ | ⟨error, chosen, chosenTwin⟩
  · rw [chosen, chosenTwin]
    exact .of_ok ⟨alikeMatches.slot, alikeMatches.prepared⟩ alikeMatches.world
  · rw [chosen, chosenTwin]
    exact .of_error _ alike

end Binding

end ScriptBridge
