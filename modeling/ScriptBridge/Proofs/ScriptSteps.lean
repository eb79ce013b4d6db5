/-
This file takes script code step by step. On proxies and bound members its
operations go on as the host's do, on values of script's own they only change the
world; an expression goes on as its parts and its operation do.
-/

import ScriptBridge.Proofs.HostSteps
import ScriptBridge.Proofs.InvokeSteps
import ScriptBridge.Script.Run

namespace ScriptBridge.Script

open Run Bridge Binding

variable {conduct : Conduct} [ChangeConduct conduct] {calls : Calls}
variable {steps : Conduct} [StepConduct steps]

/-! ### Errors -/

theorem nullishError_leaves (value : Value) (name : String) :
    Leaves conduct (nullishError value name) :=
  .bind (.describe _) fun _ => .pure _

theorem thrownError_leaves (document : Document) (value : Value) :
    Leaves conduct (thrownError document value) :=
  .bind (.describe _) fun _ => .bind (.readStore _) fun _ => .pure _

theorem caughtValue_leaves (error : ScriptError) : Leaves conduct (caughtValue error) := by
  unfold caughtValue
  split
  · exact .pure _
  · exact .bind (.create _ trivial rfl) fun _ => .pure _

/-! ### Globals -/

theorem findGlobalMember_reaches (reach : calls.Reach steps) (engine : EngineId) (name : String)
    (proxies : List CellId) : Leaves steps (findGlobalMember calls engine name proxies) := by
  induction proxies with
  | nil => exact .pure _
  | cons proxy rest inductionHypothesis =>
    refine .bind (memberNames_reaches engine proxy) fun names => ?_
    split
    · exact .bind (getMember_reaches reach engine proxy name) fun _ => .pure _
    · exact inductionHypothesis

theorem readGlobal_reaches (reach : calls.Reach steps) (engine : EngineId) (name : String) :
    Leaves steps (readGlobal calls engine name) := by
  unfold readGlobal
  refine .bind (.engine engine) fun state => ?_
  split
  · exact .pure _
  · refine .bind (.holdCells _) fun _ => ?_
    refine .bind (findGlobalMember_reaches reach engine name _) fun found => ?_
    split
    · exact .pure _
    · exact .raise _

theorem writeGlobal_leaves (engine : EngineId) (name : String) (value : Value) :
    Leaves steps (writeGlobal engine name value) :=
  .scope (.bind (adopt_leaves engine value) fun _ =>
    .modifyAside engine fun _ => ⟨rfl, rfl, rfl, rfl, rfl, rfl⟩)

/-! ### Members -/

theorem getProperty_reaches (reach : calls.Reach steps) (engine : EngineId) (target : Value)
    (name : String) : Leaves steps (getProperty calls engine target name) := by
  unfold getProperty
  refine .bind (.readStore _) fun store => ?_
  dsimp only
  split
  · exact getMember_reaches reach engine _ _
  · exact getBound_leaves _ _
  · exact .pure _
  · exact .pure _
  · exact .pure _
  · exact .pure _
  · exact .pure _
  · exact .pure _
  · exact .pure _
  · exact .pure _
  · split
    · exact .bind (nullishError_leaves _ _) fun _ => .raise _
    · exact .pure _

theorem setProperty_reaches (reach : calls.Reach steps) (engine : EngineId) (target : Value)
    (name : String) (value : Value) :
    Leaves steps (setProperty calls engine target name value) := by
  unfold setProperty
  split
  · exact setMember_reaches reach engine _ name value
  · exact .put _ _ (fun _ => nofun) (fun _ => rfl) fun _ => rfl
  · exact .bind (.describe _) fun _ => .raise _

theorem invokeProperty_reaches (reach : calls.Reach steps) (engine : EngineId) (target : Value)
    (name : String) (arguments : List Value) :
    Leaves steps (invokeProperty calls engine target name arguments) := by
  unfold invokeProperty
  split
  · exact invoke_reaches reach engine _ name arguments
  · exact .bind (.readStore _) fun _ => invokeBound_reaches reach engine _ name arguments
  · refine .bind (.readStore _) fun callee => ?_
    split
    · exact .raise _
    · exact callValue_reaches reach engine callee arguments
  · split
    · exact .bind (nullishError_leaves _ _) fun _ => .raise _
    · exact .bind (.describe _) fun _ => .raise _

theorem assignThroughProperty_reaches (reach : calls.Reach steps) (engine : EngineId)
    (target : Value) (name : String) (keys : List Value) (value : Value) :
    Leaves steps (assignThroughProperty calls engine target name keys value) := by
  unfold assignThroughProperty
  split
  · exact assignMember_reaches reach engine _ name keys value
  · exact .bind (.describe _) fun _ => .raise _

/-! ### Indices -/

theorem notIndexable_leaves (value : Value) : Leaves conduct (notIndexable value) :=
  .bind (.describe _) fun _ => .pure _

theorem getElement_leaves (view : BufferView) (place : Nat) :
    Leaves conduct (getElement view place) := by
  refine .bind (.readStore _) fun contents => ?_
  split
  · exact .pure _
  · exact .raise _

theorem readIndex_reaches (reach : calls.Reach steps) (engine : EngineId) (target : Value)
    (keys : List Value) : Leaves steps (readIndex calls engine target keys) := by
  unfold readIndex
  split
  · exact getIndex_reaches reach engine _ keys
  · split
    · exact .bind (.readStore _) fun _ => .pure _
    · exact .pure _
  · split
    · exact getElement_leaves _ _
    · exact .pure _
  · exact getProperty_reaches reach engine _ _
  · exact .bind (notIndexable_leaves _) fun _ => .raise _

theorem setItem_leaves (cell : CellId) (place : Nat) (value : Value) :
    Leaves conduct (setItem cell place value) :=
  .bind (.readStore _) fun _ => .put _ _ (fun _ => nofun) (fun _ => rfl) fun _ => rfl

theorem setElement_leaves (view : BufferView) (key value : Value) :
    Leaves conduct (setElement view key value) := by
  unfold setElement
  split
  · exact .bind (.describe _) fun _ => .raise _
  · exact .bind (.describe _) fun _ => .raise _
  · refine .bind (.readStore _) fun contents => ?_
    split
    · exact .put _ _ (fun _ => nofun) (fun _ => rfl) fun _ => rfl
    · exact .raise _

theorem writeIndex_reaches (reach : calls.Reach steps) (engine : EngineId) (target : Value)
    (keys : List Value) (value : Value) :
    Leaves steps (writeIndex calls engine target keys value) := by
  unfold writeIndex
  split
  · exact setIndex_reaches reach engine _ keys value
  · split
    · exact setItem_leaves _ _ value
    · exact .bind (.describe _) fun _ => .raise _
  · exact setProperty_reaches reach engine _ _ value
  · exact setElement_leaves _ _ value
  · exact .bind (notIndexable_leaves _) fun _ => .raise _

/-! ### Instances and names -/

theorem constructValue_reaches (reach : calls.Reach steps) (engine : EngineId) (callee : Value)
    (arguments : List Value) : Leaves steps (constructValue calls engine callee arguments) := by
  unfold constructValue
  refine .bind (handledType?_leaves callee) fun handled => ?_
  split
  · exact construct_reaches reach engine _ arguments
  · exact .bind (.describe _) fun _ => .raise _

theorem namesOf_reaches (engine : EngineId) (target : Value) :
    Leaves steps (namesOf engine target) := by
  unfold namesOf
  split
  · exact memberNames_reaches engine _
  · exact .bind (.readStore _) fun _ => .pure _
  · exact .bind (.readStore _) fun _ => .pure _
  · exact .pure _

/-! ### Texts and numbers -/

theorem textsOf_reaches (reach : calls.Reach steps) (engine : EngineId) (values : List Value) :
    Leaves steps (textsOf calls engine values) := by
  induction values with
  | nil => exact .pure _
  | cons value rest inductionHypothesis =>
    exact .bind (reach.toText _ _) fun _ => .bind inductionHypothesis fun _ => .pure _

theorem textOf_reaches (reach : calls.Reach steps) (engine : EngineId) (value : Value) :
    Leaves steps (textOf calls engine value) := by
  unfold textOf
  refine .inScope _ ?_
  split
  · exact .pure _
  · exact .pure _
  · exact .pure _
  · exact .pure _
  · exact .pure _
  · exact .pure _
  · exact .pure _
  · exact .bind (invoke_reaches reach engine _ _ _) fun _ => .pure _
  · exact .bind (.readStore _) fun _ => .bind (textsOf_reaches reach engine _) fun _ => .pure _
  · exact .pure _
  · exact .describe _

theorem numberOf_leaves (engine : EngineId) (value : Value) :
    Leaves conduct (numberOf engine value) := by
  cases value with
  | proxy cell => exact .bind (toHostValue_leaves engine (.proxy cell)) fun _ => .pure _
  | _ => exact .pure _

end ScriptBridge.Script
