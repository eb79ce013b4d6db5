/-
This file proves what conversions to host values and the matching of arguments
do to the world: they make cells for arrays, delegates and carried script values,
and they note cells as in use. No cell that was there changes, no proxy is made,
and the types, the engines and the history stay as they are.
-/

import Mathlib.Logic.Relation
import ScriptBridge.Binding.Overload
import ScriptBridge.Proofs.Confinement
import ScriptBridge.Proofs.Leaves

namespace ScriptBridge

open Run

/-! ### Growth -/

/-- Is the cell one that conversions make? -/
def Cell.isConverted : Cell → Bool
  | .hostArray _ _ | .delegate _ _ | .handle _ => true
  | _ => false

/-- A step of a conversion. -/
inductive Growth : World → World → Prop
  | held (world : World) (held : List CellId) : Growth world { world with held }
  | create (world : World) (contents : Cell) (converted : contents.isConverted)
      (plain : contents.isOpen) : Growth world (world.create contents).1

/-- The world has grown as conversions make it grow. -/
abbrev Grows : World → World → Prop := Relation.ReflTransGen Growth

instance : RunRelation Grows where
  refl _ := .refl
  trans := .trans
  held world held := .single (.held world held)

theorem create_grows {Failure : Type} {contents : Cell} (converted : contents.isConverted)
    (plain : contents.isOpen) : Leaves Grows (create contents : Run Failure CellId) :=
  fun world => .trans (.single (.create world contents converted plain)) (RunRelation.held _ _)

/-! ### Grown stores -/

/-- The store has the types and cells of an earlier one, and besides them cells that conversions
made. -/
structure Store.Extends (earlier later : Store) : Prop where
  types : later.types = earlier.types
  size_le : earlier.cells.size ≤ later.cells.size
  get? : ∀ cell < earlier.cells.size, later.get? cell = earlier.get? cell
  converted : ∀ cell contents, earlier.cells.size ≤ cell → later.get? cell = some contents →
    contents.isConverted

namespace Store

theorem Extends.refl (store : Store) : store.Extends store where
  types := rfl
  size_le := Nat.le_refl _
  get? _ _ := rfl
  converted cell contents outside found := by
    rw [get?_of_size_le outside] at found
    cases found

theorem Extends.trans {first second third : Store} (left : first.Extends second)
    (right : second.Extends third) : first.Extends third where
  types := right.types.trans left.types
  size_le := Nat.le_trans left.size_le right.size_le
  get? cell inside :=
    (right.get? cell (Nat.lt_of_lt_of_le inside left.size_le)).trans (left.get? cell inside)
  converted cell contents outside found := by
    by_cases inside : cell < second.cells.size
    · rw [right.get? cell inside] at found
      exact left.converted cell contents outside found
    · exact right.converted cell contents (Nat.le_of_not_lt inside) found

theorem Extends.create {store : Store} {contents : Cell} (converted : contents.isConverted) :
    store.Extends (store.create contents).1 where
  types := rfl
  size_le := by
    unfold Store.create
    rw [Array.size_push]
    exact Nat.le_succ _
  get? _ inside := get?_create_of_lt inside
  converted cell other outside found := by
    rcases Nat.lt_or_eq_of_le outside with beyond | rfl
    · rw [get?_of_size_le (by unfold Store.create; rwa [Array.size_push])] at found
      cases found
    · rw [get?_create_size] at found
      cases found
      exact converted

/-- A cell is as it was, or conversions made it. -/
theorem Extends.get?_cases {earlier later : Store} (grown : earlier.Extends later) (cell : CellId) :
    later.get? cell = earlier.get? cell ∨
      earlier.get? cell = none ∧ ∃ contents, contents.isConverted ∧
        later.get? cell = some contents := by
  by_cases inside : cell < earlier.cells.size
  · exact .inl (grown.get? cell inside)
  · have outside := Nat.le_of_not_lt inside
    cases found : later.get? cell with
    | none => exact .inl (get?_of_size_le outside).symm
    | some contents =>
      exact .inr ⟨get?_of_size_le outside, contents, grown.converted cell contents outside found,
        rfl⟩

/-- Script arrays keep their items while conversions make cells. -/
theorem Extends.scriptItems {earlier later : Store} (grown : earlier.Extends later)
    (cell : CellId) : later.scriptItems cell = earlier.scriptItems cell := by
  unfold Store.scriptItems
  rcases grown.get?_cases cell with same | ⟨missing, contents, converted, found⟩
  · rw [same]
  · rw [missing, found]
    cases contents <;> first | rfl | cases converted

theorem Extends.objectType {earlier later : Store} (grown : earlier.Extends later)
    (cell : CellId) : later.objectType cell = earlier.objectType cell := by
  unfold Store.objectType
  rcases grown.get?_cases cell with same | ⟨missing, contents, converted, found⟩
  · rw [same]
  · rw [missing, found]
    cases contents <;> first | rfl | cases converted

theorem Extends.boxType {earlier later : Store} (grown : earlier.Extends later) (cell : CellId) :
    later.boxType cell = earlier.boxType cell := by
  unfold Store.boxType
  rcases grown.get?_cases cell with same | ⟨missing, contents, converted, found⟩
  · rw [same]
  · rw [missing, found]
    cases contents <;> first | rfl | cases converted

theorem Extends.boxValue {earlier later : Store} (grown : earlier.Extends later) (cell : CellId) :
    later.boxValue cell = earlier.boxValue cell := by
  unfold Store.boxValue
  rcases grown.get?_cases cell with same | ⟨missing, contents, converted, found⟩
  · rw [same]
  · rw [missing, found]
    cases contents <;> first | rfl | cases converted

theorem Extends.proxy {earlier later : Store} (grown : earlier.Extends later) (cell : CellId) :
    later.proxy cell = earlier.proxy cell := by
  unfold Store.proxy
  rcases grown.get?_cases cell with same | ⟨missing, contents, converted, found⟩
  · rw [same]
  · rw [missing, found]
    cases contents <;> first | rfl | cases converted

theorem Extends.isLive {earlier later : Store} (grown : earlier.Extends later) {cell : CellId}
    (living : earlier.isLive cell = true) : later.isLive cell = true := by
  obtain ⟨contents, found⟩ := isLive_iff.mp living
  exact isLive_iff.mpr ⟨contents, (grown.get? cell (lt_size_of_get? found)).trans found⟩

end Store

/-- Growth leaves a store that extends the one before. -/
theorem Grows.extends {before after : World} (grows : Grows before after) :
    before.store.Extends after.store := by
  induction grows with
  | refl => exact .refl _
  | tail _ step inductionHypothesis =>
    cases step with
    | held => exact inductionHypothesis
    | create contents converted => exact inductionHypothesis.trans (.create converted)

theorem Grows.engines {before after : World} (grows : Grows before after) :
    after.engines = before.engines := by
  induction grows with
  | refl => rfl
  | tail _ last inductionHypothesis =>
    cases last with
    | held => exact inductionHypothesis
    | create => exact inductionHypothesis

/-- A proxy leads where it did while conversions make cells. -/
theorem Grows.targetOf {before after : World} (grows : Grows before after) {cell : CellId}
    {target : Host.Value} (reached : before.targetOf cell = .ok target) :
    after.targetOf cell = .ok target := by
  have engine (other : EngineId) : after.engine other = before.engine other := by
    unfold World.engine
    rw [grows.engines]
  unfold World.targetOf at reached ⊢
  dsimp only at reached ⊢
  rw [grows.extends.proxy, engine]
  split at reached
  · cases reached
  · next enabled =>
    rw [if_neg enabled]
    cases stands : (before.store.proxy cell).target with
    | boxed => rw [stands] at reached; exact reached
    | type => rw [stands] at reached; exact reached
    | reference value =>
      rw [stands] at reached
      dsimp only at reached ⊢
      cases identity : value.identity? with
      | none => rw [identity] at reached; exact reached
      | some target =>
        rw [identity] at reached
        dsimp only at reached ⊢
        split at reached
        · next living => rw [if_pos (grows.extends.isLive living)]; exact reached
        · cases reached

namespace Bridge

variable {Failure : Type}

/-! ### Conversions -/

theorem boxedValue?_grows (value : Script.Value) :
    Leaves Grows (boxedValue? value : Run Failure (Option Host.Value)) := by
  cases value with
  | proxy cell => exact .bind (.observe _) fun _ => .pure _
  | _ => exact .pure _

theorem carry_grows {value : Script.Value} (plain : (Cell.handle value).isOpen) :
    Leaves Grows (carry value : Run Failure Host.Value) :=
  .bind (create_grows rfl plain) fun _ => .pure _

/-- An untyped target takes every value, whatever run asks for it. -/
theorem outcome_toHostValue_total (engine : EngineId) (script : Script.Value) (world : World) :
    ∃ host after, ∀ {Failure : Type},
      (toHostValue engine script : Run Failure Host.Value).outcome world = (.ok host, after) := by
  cases script with
  | date millis =>
    unfold toHostValue Run.engine
    simp only [outcome_bind_of_ok (outcome_observe _ _)]
    split <;> exact ⟨_, _, rfl⟩
  | proxy cell =>
    unfold toHostValue
    simp only [outcome_bind_of_ok (outcome_observe _ _)]
    split <;> exact ⟨_, _, rfl⟩
  | _ => exact ⟨_, _, rfl⟩

theorem toHostValue_grows (engine : EngineId) (value : Script.Value) :
    Leaves Grows (toHostValue engine value : Run Failure Host.Value) := by
  cases value with
  | date millis =>
    refine .bind (.engine engine) fun state => ?_
    split
    · exact .pure _
    · exact carry_grows rfl
  | proxy cell =>
    refine .bind (.observe _) fun found => ?_
    split
    · exact .hold _
    · exact .pure _
  | array cell => exact carry_grows rfl
  | object cell => exact carry_grows rfl
  | function cell => exact carry_grows rfl
  | member cell => exact carry_grows rfl
  | _ => exact .pure _

theorem toHostValues_grows (engine : EngineId) (values : List Script.Value) :
    Leaves Grows (toHostValues engine values : Run Failure (List Host.Value)) := by
  induction values with
  | nil => exact .pure _
  | cons value rest inductionHypothesis =>
    refine .bind (toHostValue_grows engine value) fun converted => ?_
    exact .bind inductionHypothesis fun others => .pure _

theorem incompatible_grows {Result : Type} (value : Script.Value) (target : Host.TypeRef) :
    Leaves Grows (incompatible value target : ConversionRun Result) :=
  .bind (.describe value) fun _ => .bind .types fun _ => .raise _

theorem delegateFor_grows (function : CellId) (type : Host.TypeKey) :
    Leaves Grows (delegateFor function type) := by
  refine .bind .types fun table => ?_
  split
  · exact create_grows rfl rfl
  · exact .bind (.readStore _) fun _ => .raise _

theorem toNumeric_grows (value : Script.Value) (boxed : Option Host.Value) (kind : Number.Kind) :
    Leaves Grows (toNumeric value boxed kind) := by
  have refuse : Leaves Grows (incompatible value (.numeric kind) : ConversionRun Converted) :=
    incompatible_grows value _
  unfold toNumeric
  dsimp only
  split
  · exact .bind (.ofExcept _) fun _ => .pure _
  · split
    · exact refuse
    · exact .bind (.ofExcept _) fun _ => .pure _
  · split
    · split
      · exact .raise _
      · exact .bind (.ofExcept _) fun _ => .pure _
    · exact refuse
  · exact refuse

theorem toNamed_grows (value : Script.Value) (boxed : Option Host.Value) (key : Host.TypeKey) :
    Leaves Grows (toNamed value boxed key) := by
  unfold toNamed
  refine .bind (.readStore _) fun store => ?_
  dsimp only
  split
  · exact .pure _
  · split
    · exact .bind (delegateFor_grows _ _) fun _ => .pure _
    · exact incompatible_grows _ _
  · exact incompatible_grows _ _

theorem convertItems_grows {convert : Script.Value → ConversionRun Converted}
    (converts : ∀ item, Leaves Grows (convert item)) (rule : Conversion.Rule)
    (items : List Script.Value) : Leaves Grows (convertItems convert rule items) := by
  induction items generalizing rule with
  | nil => exact .pure _
  | cons item rest inductionHypothesis =>
    refine .bind (.held (converts item)) fun converted => ?_
    exact .bind (inductionHypothesis _) fun others => .pure _

theorem toHostNullish_grows (value : Script.Value) (target : Host.TypeRef) :
    Leaves Grows (toHostNullish value target) := by
  unfold toHostNullish
  dsimp only
  split
  · exact .pure _
  · refine .bind .types fun table => ?_
    split
    · exact .pure _
    · exact incompatible_grows _ _

theorem toArray_grows {convert : Script.Value → ConversionRun Converted}
    (converts : ∀ item, Leaves Grows (convert item)) (value : Script.Value)
    (boxed : Option Host.Value) (element : Host.TypeRef) :
    Leaves Grows (toArray convert value boxed element) := by
  refine .bind (.readStore _) fun store => ?_
  dsimp only
  split
  · exact .pure _
  · refine .bind (convertItems_grows converts _ _) fun converted => ?_
    exact .bind (create_grows rfl rfl) fun _ => .pure _
  · exact incompatible_grows _ _

theorem toBox_grows (value : Script.Value) (boxed : Option Host.Value) (inner : Host.TypeRef) :
    Leaves Grows (toBox value boxed inner) := by
  refine .bind (.readStore _) fun store => ?_
  split
  · exact .pure _
  · exact incompatible_grows _ _

theorem toPlain_grows (value : Script.Value) (boxed : Option Host.Value) (target : Host.TypeRef) :
    Leaves Grows (toPlain value boxed target) := by
  unfold toPlain
  split
  case h_3 =>
    split
    · exact .pure _
    · exact incompatible_grows _ _
  case h_6 =>
    split
    · exact .pure _
    · exact .bind .types fun _ => .raise _
  case h_11 => exact incompatible_grows _ _
  all_goals exact .pure _

/-- A conversion to a declared type only makes cells. -/
theorem toHost_grows (engine : EngineId) (value : Script.Value) (target : Host.TypeRef) :
    Leaves Grows (toHost engine value target) := by
  induction target generalizing value
  all_goals
    unfold toHost
    split
    · exact toHostNullish_grows _ _
    refine .bind (.held (boxedValue?_grows value)) fun _ => ?_
  case nullable inner inductionHypothesis _ _ => exact inductionHypothesis value
  case array element inductionHypothesis _ _ => exact toArray_grows inductionHypothesis _ _ _
  case box => exact toBox_grows _ _ _
  case numeric => exact toNumeric_grows _ _ _
  case named => exact toNamed_grows _ _ _
  case object => exact .bind (toHostValue_grows engine value) fun _ => .pure _
  case dynamic => exact .bind (toHostValue_grows engine value) fun _ => .pure _
  all_goals exact toPlain_grows _ _ _

end Bridge

namespace Binding

open Bridge Host

/-! ### Arguments -/

theorem matching_grows {Result : Type} {run : ConversionRun Result} (grows : Leaves Grows run) :
    Leaves Grows (matching run) :=
  grows.mapFailure

theorem convertArgument_grows (engine : EngineId) (prepared : Prepared) (type : TypeRef)
    (argument : Script.Value) : Leaves Grows (convertArgument engine prepared type argument) :=
  .bind (.held (matching_grows (toHost_grows engine argument type))) fun _ => .pure _

theorem boxOf?_grows (argument : Script.Value) : Leaves Grows (boxOf? argument) := by
  refine .bind (boxedValue?_grows argument) fun boxed => ?_
  split
  · exact .pure _
  · exact .pure _

theorem prepareArgument_grows (engine : EngineId) (prepared : Prepared) (parameter : Parameter)
    (argument : Script.Value) :
    Leaves Grows (prepareArgument engine prepared parameter argument) := by
  unfold prepareArgument
  split
  · exact convertArgument_grows engine prepared _ argument
  · refine .bind .types fun table => .bind (boxOf?_grows argument) fun box => ?_
    dsimp only
    split
    · refine .bind (.readStore _) fun boxType => ?_
      split
      · exact .raise _
      · exact .bind (.readStore _) fun _ => .bind (.hold _) fun _ => .pure _
    · exact .pure _
    · exact convertArgument_grows engine prepared _ argument

theorem convertLoose_grows (engine : EngineId) (element : TypeRef) (cost : Conversion.Cost)
    (arguments : List Script.Value) : Leaves Grows (convertLoose engine element cost arguments) := by
  induction arguments generalizing cost with
  | nil => exact .pure _
  | cons argument rest inductionHypothesis =>
    refine .bind (.held (matching_grows (toHost_grows engine argument element))) fun converted => ?_
    exact .bind (inductionHypothesis _) fun others => .pure _

theorem collectLoose_grows (engine : EngineId) (prepared : Prepared) (parameter : Parameter)
    (arguments : List Script.Value) :
    Leaves Grows (collectLoose engine prepared parameter arguments) :=
  .bind (convertLoose_grows engine _ _ _) fun _ => .bind (create_grows rfl rfl) fun _ => .pure _

theorem collected_grows (engine : EngineId) (prepared : Prepared) (parameter : Parameter)
    (arguments : List Script.Value) (direct : Except Mismatch Converted) :
    Leaves Grows
      (match direct with
      | .ok converted => pure (prepared.add converted.value converted.rule converted.penalty)
      | .error _ => collectLoose engine prepared parameter arguments : Run Mismatch Prepared) := by
  cases direct with
  | ok converted => exact .pure _
  | error mismatch => exact collectLoose_grows engine prepared parameter arguments

theorem collectArguments_grows (engine : EngineId) (prepared : Prepared) (parameter : Parameter)
    (arguments : List Script.Value) :
    Leaves Grows (collectArguments engine prepared parameter arguments) := by
  unfold collectArguments
  split
  · exact .bind (.settle (.held (matching_grows (toHost_grows engine _ _))))
      (collected_grows engine _ _ _)
  · exact .bind (.pure _) (collected_grows engine _ _ _)

theorem prepareFrom_grows (engine : EngineId) (prepared : Prepared) (parameters : List Parameter)
    (arguments : List Script.Value) :
    Leaves Grows (prepareFrom engine prepared parameters arguments) := by
  induction parameters generalizing prepared arguments with
  | nil => exact .pure _
  | cons parameter rest inductionHypothesis =>
    unfold prepareFrom
    split
    · exact collectArguments_grows engine prepared parameter arguments
    · split
      · exact inductionHypothesis _ _
      · exact .bind (prepareArgument_grows engine prepared parameter _) fun next =>
          inductionHypothesis _ _

/-- Making arguments ready only makes cells. -/
theorem prepare_grows (engine : EngineId) (parameters : List Parameter)
    (arguments : List Script.Value) : Leaves Grows (prepare engine parameters arguments) := by
  unfold prepare
  split
  · exact prepareFrom_grows engine _ _ _
  · exact .raise _

end Binding

end ScriptBridge
