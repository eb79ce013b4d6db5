/-
This file takes the helper functions offered to script step by step. All but those
that construct, and those that hand a host value to script, only change the world.
-/

import ScriptBridge.Proofs.Conformance
import ScriptBridge.Proofs.ConstructSteps

namespace ScriptBridge.Binding

open Host Run Bridge Conversion

variable {conduct : Conduct} [ChangeConduct conduct]
variable {steps : Conduct} [StepConduct steps]

/-! ### Arguments -/

theorem cannotConvert_leaves {Result : Type} (actual target : String) :
    Leaves conduct (cannotConvert actual target : ScriptRun Result) :=
  .raise _

theorem handledType?_leaves (value : Script.Value) : Leaves conduct (handledType? value) := by
  unfold handledType?
  split
  · refine .bind (.readStore _) fun contents => ?_
    split
    · exact .pure _
    · exact .pure _
  · exact .pure _

theorem typeArgument_leaves (value : Script.Value) : Leaves conduct (typeArgument value) := by
  refine .bind (handledType?_leaves value) fun handled => ?_
  split
  · exact .pure _
  · exact .bind (.describe _) fun _ => cannotConvert_leaves _ _

theorem lengthArgument_leaves (value : Script.Value) : Leaves conduct (lengthArgument value) := by
  unfold lengthArgument
  split
  · split
    · exact .raise _
    · exact .pure _
  · exact .bind (.describe _) fun _ => cannotConvert_leaves _ _

theorem textArgument_leaves (value : Script.Value) : Leaves conduct (textArgument value) := by
  unfold textArgument
  split
  · exact .pure _
  · exact .bind (.describe _) fun _ => cannotConvert_leaves _ _

/-! ### Coercions -/

theorem coerced_leaves (value : Script.Value) (kind : Number.Kind)
    (converted : Option Converting) :
    Leaves conduct (match converted with
      | some (.ok number) => pure number
      | some (.error error) => raise (.argumentConversion error)
      | none => do cannotConvert (← describe value) kind.name : ScriptRun Host.Value) := by
  split
  · exact .pure _
  · exact .raise _
  · exact .bind (.describe _) fun _ => cannotConvert_leaves _ _

theorem coerce_leaves (engine : EngineId) (value : Script.Value) (kind : Number.Kind) :
    Leaves conduct (coerce engine value kind) := by
  unfold coerce
  split
  · exact .bind (.pure _) (coerced_leaves _ _)
  · exact .bind (.pure _) (coerced_leaves _ _)
  · exact .bind (.pure _) (coerced_leaves _ _)
  · refine .bind (.held (toHostValue_leaves engine _)) fun host => ?_
    exact .bind (.pure _) (coerced_leaves _ _)

theorem coerceChar_leaves (engine : EngineId) (value : Script.Value) :
    Leaves conduct (coerceChar engine value) := by
  unfold coerceChar
  split
  · split
    · exact .pure _
    · exact cannotConvert_leaves _ _
  · refine .bind (coerce_leaves engine _ _) fun number => ?_
    dsimp only
    split
    · exact .pure _
    · exact cannotConvert_leaves _ _

/-! ### What coercions make -/

theorem isValueLike_of_numericKind? {number : Value} {kind : Number.Kind}
    (numeric : number.numericKind? = some kind) : number.isValueLike = true := by
  cases number <;> first | rfl | cases numeric

theorem numericKind?_of_ofDoubleTruncating {number : Number.Double} {kind : Number.Kind}
    {host : Value} (converted : ofDoubleTruncating number kind = .ok host) :
    host.numericKind? = some kind := by
  unfold ofDoubleTruncating at converted
  split at converted
  · exact numericKind?_of_ofDouble converted
  · split at converted
    · cases converted
    · split at converted
      · next other found =>
        cases converted
        exact numericKind?_of_ofInt? found
      · cases converted

theorem numericKind?_of_coerceScalar? {value host : Value} {kind : Number.Kind}
    (converted : coerceScalar? value kind = some (.ok host)) : host.numericKind? = some kind := by
  unfold coerceScalar? at converted
  split at converted
  · split at converted
    · exact numericKind?_of_ofDoubleTruncating (Option.some.inj converted)
    · exact numericKind?_of_ofScalar rfl (Option.some.inj converted)
  · split at converted
    · exact numericKind?_of_ofDoubleTruncating (Option.some.inj converted)
    · exact numericKind?_of_ofScalar rfl (Option.some.inj converted)
  · split at converted
    · have truncated := Option.some.inj converted
      unfold truncateDecimal at truncated
      split at truncated
      · next other found =>
        cases truncated
        exact numericKind?_of_ofInt? found
      · cases truncated
    · exact numericKind?_of_ofScalar rfl (Option.some.inj converted)
  · exact numericKind?_of_ofInt (Option.some.inj converted)
  · next scalar => exact numericKind?_of_ofScalar scalar (Option.some.inj converted)
  · cases converted

/-- What is coerced to a kind is a number of the kind. -/
theorem numericKind?_of_coerce {engine : EngineId} {value : Script.Value} {kind : Number.Kind}
    {number : Value} (yields : (coerce engine value kind).Yields number) :
    number.numericKind? = some kind := by
  have coerced {converted : Option Converting} {world after : World} (ran : (match converted with
      | some (.ok number) => pure number
      | some (.error error) => raise (.argumentConversion error)
      | none => do cannotConvert (← describe value) kind.name : ScriptRun Host.Value).outcome
        world = (.ok number, after)) : converted = some (.ok number) := by
    split at ran
    · cases ran
      rfl
    · cases ran
    · cases ran
  obtain ⟨world, after, ran⟩ := yields
  unfold coerce at ran
  dsimp only at ran
  split at ran
  · exact numericKind?_of_ofInt (Option.some.inj (coerced ran))
  · exact numericKind?_of_ofDoubleTruncating (Option.some.inj (coerced ran))
  · obtain ⟨read, -, same⟩ := Option.map_eq_some_iff.mp (coerced ran)
    exact numericKind?_of_ofDoubleTruncating same
  · obtain ⟨host, between, -, ran⟩ := outcome_bind_eq_ok.mp ran
    exact numericKind?_of_coerceScalar? (coerced ran)

theorem isValueLike_of_coerceChar {engine : EngineId} {value : Script.Value} {character : Value}
    (yields : (coerceChar engine value).Yields character) : character.isValueLike = true := by
  obtain ⟨world, after, ran⟩ := yields
  unfold coerceChar at ran
  split at ran
  · split at ran
    · cases ran
      rfl
    · cases ran
  · obtain ⟨number, between, -, ran⟩ := outcome_bind_eq_ok.mp ran
    dsimp only at ran
    split at ran
    · cases ran
      rfl
    · cases ran

/-! ### Flags -/

theorem combine_leaves (engine : EngineId) (type : Option TypeKey) (raw : Int)
    (values : List Script.Value) : Leaves conduct (combine engine type raw values) := by
  induction values generalizing type raw with
  | nil => exact .pure _
  | cons value rest inductionHypothesis =>
    unfold combine
    refine .bind .types fun table => .bind (.held (toHostValue_leaves engine value)) fun host => ?_
    dsimp only
    split
    · split
      · exact inductionHypothesis _ _
      · exact cannotConvert_leaves _ _
    · split
      · exact inductionHypothesis _ _
      · exact cannotConvert_leaves _ _
    · exact .bind (.describe _) fun _ => cannotConvert_leaves _ _

/-! ### Objects -/

theorem deleteName_reaches (engine : EngineId) (object name : Script.Value) :
    Leaves steps (deleteName engine object name) := by
  unfold deleteName
  refine .bind (textArgument_leaves name) fun name => ?_
  split
  · exact .bind (.readStore _) fun properties =>
      .bind (.put _ _ (fun _ => nofun) (fun _ => rfl) fun _ => rfl) fun _ => .pure _
  · refine .bind (target_leaves _) fun current => .bind (dynamicOf?_reaches _ _ _) fun dynamic => ?_
    split
    · refine .bind (callHost_reaches engine (deleteDynamic_leaves _ _)) fun found => ?_
      split
      · exact .pure _
      · exact .raise _
    · exact .raise _
  · exact .bind (.describe _) fun _ => .raise _

/-- What a proxy stands for is at most given another that passes its capability by. -/
theorem withoutDynamic_conducted {world : World} (engine : EngineId) (proxy : CellId)
    (makes : ∀ view, Makes conduct ⟨engine, (world.store.proxy proxy).target, view,
      (world.store.proxy proxy).flags.union .directAccess⟩) :
    conduct world (isShort ((withoutDynamic engine (.proxy proxy)).outcome world).1)
      ((withoutDynamic engine (.proxy proxy)).outcome world).2 := by
  unfold withoutDynamic
  dsimp only
  rw [outcome_bind_of_ok (outcome_readStore _ _)]
  cases stands : (world.store.proxy proxy).target with
  | type type => exact RunConduct.refl world _
  | boxed value =>
    rw [stands] at makes
    refine target_bind_conducted (.bind (boxValue_leaves ?_) fun _ => .pure _)
    unfold Proxy.value
    rw [stands]
    exact makes none
  | reference value =>
    rw [stands] at makes
    refine target_bind_conducted (.bind (proxyReference_leaves _ fun _ view => ?_) fun _ => .pure _)
    unfold Proxy.value
    rw [stands]
    exact makes view

theorem withoutDynamic_leaves (engine : EngineId) (value : Script.Value) :
    Leaves steps (withoutDynamic engine value) := by
  cases value with
  | proxy proxy =>
    exact fun world => conducted_of_makes proxy fun makes =>
      withoutDynamic_conducted engine proxy fun view => makes _ (.withoutDynamic engine view)
  | _ => exact .pure _

variable {calls : Calls}

theorem flagsOf_reaches (reach : calls.Reach steps) (engine : EngineId)
    (values : List Script.Value) : Leaves steps (flagsOf calls engine values) := by
  unfold flagsOf
  refine .bind (combine_leaves _ _ _ _) fun combined => ?_
  split
  · exact cannotConvert_leaves _ _
  · refine .bind .types fun table => ?_
    dsimp only
    split
    · exact toScript_reaches reach engine _ _
    · exact .raise _

theorem typeOfValue_reaches (reach : calls.Reach steps) (engine : EngineId) (value : Script.Value) :
    Leaves steps (typeOfValue calls engine value) := by
  unfold typeOfValue
  refine .bind (handledType?_leaves _) fun handled => ?_
  split
  · exact .pure _
  · split
    · exact .bind (.describe _) fun _ => cannotConvert_leaves _ _
    · refine .bind (.held (toHostValue_leaves engine _)) fun host => ?_
      refine .bind (.readStore _) fun type => ?_
      exact toScript_reaches reach engine _ _

/-! ### Makers -/

theorem madeArray_reaches (reach : calls.Reach steps) (engine : EngineId) (element : TypeRef)
    (length : Option Script.Value) :
    Leaves steps (do
      let length ← match length with
        | some value => lengthArgument value
        | none => pure 0
      toScript calls engine (.array (← newArray element length)) (.array element) :
        ScriptRun Script.Value) := by
  cases length with
  | some value =>
    exact .bind (lengthArgument_leaves _) fun _ => .bind (newArray_leaves _ _) fun _ =>
      toScript_reaches reach engine _ _
  | none =>
    exact .bind (.pure _) fun _ => .bind (newArray_leaves _ _) fun _ =>
      toScript_reaches reach engine _ _

theorem makeArray_reaches (reach : calls.Reach steps) (engine : EngineId)
    (arguments : List Script.Value) : Leaves steps (makeArray calls engine arguments) := by
  unfold makeArray
  refine .bind (handledType?_leaves _) fun handled => ?_
  cases handled with
  | some element => exact .bind (.pure _) fun _ => madeArray_reaches reach engine _ _
  | none => exact .bind (.pure _) fun _ => madeArray_reaches reach engine _ _

theorem makeObject_reaches (reach : calls.Reach steps) (engine : EngineId)
    (arguments : List Script.Value) : Leaves steps (makeObject calls engine arguments) := by
  unfold makeObject
  split
  · exact .bind (.create _ trivial rfl) fun _ => .pure _
  · refine .bind (handledType?_leaves _) fun handled => ?_
    split
    · exact construct_reaches reach engine _ _
    · exact .bind (.describe _) fun _ => cannotConvert_leaves _ _

theorem makeBox_reaches (reach : calls.Reach steps) (engine : EngineId)
    (arguments : List Script.Value) : Leaves steps (makeBox calls engine arguments) := by
  unfold makeBox
  refine .bind (typeArgument_leaves _) fun type => ?_
  have made (initial : Host.Value) : Leaves steps (do
      toScript calls engine (.box (← create (.box type initial))) (.box type) :
        ScriptRun Script.Value) :=
    .bind (.create _ trivial rfl) fun _ => toScript_reaches reach engine _ _
  cases arguments[1]? with
  | some value =>
    refine .bind (converted_leaves engine value type) fun converted => ?_
    exact .bind (.pure _) made
  | none =>
    refine .bind .types fun table => ?_
    exact .bind (.pure _) made

/-! ### Helpers -/

theorem runHelper_reaches (reach : calls.Reach steps) (engine : EngineId) (helper : Helper)
    (arguments : List Script.Value) : Leaves steps (runHelper calls engine helper arguments) := by
  cases helper with
  | cast =>
    refine .bind (typeArgument_leaves _) fun type => ?_
    refine .bind (converted_leaves engine _ _) fun converted => ?_
    exact toScript_reaches reach engine _ _
  | isType =>
    refine .bind (typeArgument_leaves _) fun type => ?_
    refine .bind (toHostValue_leaves engine _) fun host => ?_
    exact .bind (.readStore _) fun _ => .pure _
  | asType =>
    refine .bind (typeArgument_leaves _) fun type => ?_
    refine .bind (.held (toHostValue_leaves engine _)) fun host => ?_
    refine .bind (.readStore _) fun fits => ?_
    split
    · exact toScript_reaches reach engine _ _
    · exact .pure _
  | delete => exact deleteName_reaches engine _ _
  | newArray => exact makeArray_reaches reach engine arguments
  | newObject => exact makeObject_reaches reach engine arguments
  | newBox => exact makeBox_reaches reach engine arguments
  | flags => exact flagsOf_reaches reach engine arguments
  | number kind =>
    refine .bind_of_yields (coerce_leaves engine _ _) fun number yields => ?_
    have like := isValueLike_of_numericKind? (numericKind?_of_coerce yields)
    exact .bind (boxValue_leaves (makes_of_apt like)) fun _ => .pure _
  | char =>
    refine .bind_of_yields (coerceChar_leaves engine _) fun character yields => ?_
    have like := isValueLike_of_coerceChar yields
    exact .bind (boxValue_leaves (makes_of_apt like)) fun _ => .pure _
  | typeOf => exact typeOfValue_reaches reach engine _
  | toStatic => exact withoutDynamic_leaves engine _
  | isNull => exact .pure _

/-- An intrinsic goes on by steps. -/
theorem runIntrinsic_reaches (reach : calls.Reach steps) (engine : EngineId) (number : Nat)
    (arguments : List Script.Value) :
    Leaves steps (runIntrinsic calls engine number arguments) := by
  unfold runIntrinsic
  split
  · exact runHelper_reaches reach engine _ arguments
  · exact .raise _

end ScriptBridge.Binding
