/-
This file shows that marshaling and the frames of calls do not depend on annotations.
What a frame does at its end, which proxy a value gets and what a script value converts
to is read off cells, engines, bases and interfaces; a frame agrees where its bodies
do, and marshaling where the marshaling of items does.
-/

import ScriptBridge.Bridge.ToHost
import ScriptBridge.Bridge.ToScript
import ScriptBridge.Proofs.Agreement

namespace ScriptBridge.Bridge

open Run Host Conversion

variable {free : Annotated} {cut : Prop} {Failure Result : Type}

/-! ### Frames -/

theorem releaseDropped_agrees (engine : EngineId) :
    IsBlind free cut (releaseDropped engine : Run Failure Nat) := by
  refine .bind_same .reap fun _ => .bind_same (.engine engine) fun state => ?_
  exact .bind_same (.modifyEngine engine _) fun _ => .pure _

theorem sweep_agrees (engine : EngineId) :
    IsBlind free cut (sweep engine : Run Failure Swept) := by
  refine .bind_same (releaseDropped_agrees engine) fun released => .bind_same .reap fun _ => ?_
  refine .bind_same (.readStore fun _ => rfl) fun isLive => ?_
  refine .bind_same (.engine engine) fun state => ?_
  exact .bind_same (.modifyEngine engine _) fun _ => .pure _

theorem settleEngine_agrees (engine : EngineId) (collectionOwed : Bool) :
    IsBlind free cut (settleEngine engine collectionOwed) := by
  unfold settleEngine
  split
  · exact .discard (sweep_agrees engine)
  · exact .discard (releaseDropped_agrees engine)

/-- Frames agree where their bodies do. -/
theorem frame_agrees [HoldsCells Result] (engine : EngineId) (kind : FrameKind)
    {body twin : ScriptRun Result} (agrees : Agrees free cut Eq body twin) :
    Agrees free cut Eq (frame engine kind body) (frame engine kind twin) := by
  unfold frame frameWith
  refine .bind_same (.engine engine) fun state => .bind_same (.ofExcept _) fun entered => ?_
  refine .bind_same (.modifyEngine engine _) fun _ => ?_
  refine .bind_same (.settle (.scope (.bind_same (.ofExcept _) fun _ => agrees))) fun outcome => ?_
  refine .bind_same (.engine engine) fun left => ?_
  rcases left.session.leave (failure? outcome) with ⟨session, ended⟩
  refine .bind_same (.modifyEngine engine _) fun _ => ?_
  cases ended with
  | none => exact .ofExcept _
  | some collectionOwed =>
    refine .bind_same (.inScope _ ?_) fun _ => .ofExcept _
    exact settleEngine_agrees engine _

theorem requireAlive_agrees (engine : EngineId) : IsBlind free cut (requireAlive engine) := by
  refine .bind_same (.engine engine) fun state => ?_
  split
  · exact .raise _
  · exact .pure _

/-- Host code agrees in its frame as it does by itself. -/
theorem callHost_agrees [HoldsCells Result] (engine : EngineId) {body twin : HostRun Result}
    (agrees : Agrees free cut Eq body twin) :
    Agrees free cut Eq (callHost engine body) (callHost engine twin) :=
  .bind_same (requireAlive_agrees engine) fun _ =>
    frame_agrees engine .hostCall (.mapFailure (fun _ => rfl) agrees)

/-! ### Proxies -/

theorem requireCache_agrees (engine : EngineId) : IsBlind free cut (requireCache engine) := by
  refine .bind_same (.engine engine) fun state => ?_
  split
  · exact .raise _
  · exact .pure _

theorem reserve_agrees (engine : EngineId) : IsBlind free cut (reserve engine) := by
  have enforce : IsBlind free cut (do
      if ← observe (·.isOverLimit) then
        discard (sweep engine)
        if ← observe (·.isOverLimit) then raise (.plain "Error" "runtime heap limit exceeded") :
      ScriptRun Unit) := by
    refine .bind_same (.observe fun _ => rfl) fun exceeded => ?_
    split
    · refine .bind_same (.discard (sweep_agrees engine)) fun _ => ?_
      refine .bind_same (.observe fun _ => rfl) fun still => ?_
      split
      · exact .raise _
      · exact .pure _
    · exact .pure _
  unfold reserve
  refine .bind_same (.observe fun _ => rfl) fun limit => ?_
  split
  · exact .bind_same .reap fun _ => enforce
  · exact enforce

theorem findLive_agrees {Key : Type} [BEq Key] (entries : List (Key × CellId)) (key : Key) :
    IsBlind free cut (findLive entries key) := by
  unfold findLive
  split
  · exact .bind_same .reap fun _ => .bind_same (.readStore fun _ => rfl) fun _ => .pure _
  · exact .bind_same (.readStore fun _ => rfl) fun _ => .pure _

theorem findOrMake_agrees {Key : Type} [BEq Key] (entries : ProxyCache → List (Key × CellId))
    (add : ProxyCache → CellId → ProxyCache) (key : Key) (proxy : Proxy) :
    IsBlind free cut (findOrMake entries add key proxy) := by
  refine .bind_same (.engine _) fun state => .bind_same (findLive_agrees _ _) fun found => ?_
  cases found with
  | some found => exact .bind_same (.keep _) fun _ => .pure _
  | none =>
    refine .bind_same (.create _) fun made => ?_
    exact .bind_same (.modifyEngine _ _) fun _ => .pure _

theorem findReference_agrees (engine : EngineId) (value : Value) (view : Option TypeKey)
    (flags : ItemFlags) : IsBlind free cut (findReference engine value view flags) := by
  refine .bind_same (requireCache_agrees engine) fun _ => ?_
  split
  · exact findOrMake_agrees _ _ _ _
  · exact .bind_same (.typeText value) fun _ => .raise _

theorem findHandle_agrees (engine : EngineId) (type : TypeRef) (flags : ItemFlags) :
    IsBlind free cut (findHandle engine type flags) :=
  .bind_same (requireCache_agrees engine) fun _ => findOrMake_agrees _ _ _ _

theorem makeBoxed_agrees (engine : EngineId) (value : Value) (flags : ItemFlags) :
    IsBlind free cut (makeBoxed engine value flags) :=
  .bind_same (requireCache_agrees engine) fun _ => .create _

theorem boxValue_agrees (engine : EngineId) (value : Value) (flags : ItemFlags) :
    IsBlind free cut (boxValue engine value flags) :=
  .bind_same (.holdCells _) fun _ => .bind_same (reserve_agrees engine) fun _ =>
    makeBoxed_agrees engine value flags

/-- The view that a declared type asks for is a matter of bases and interfaces. -/
theorem viewFor_bare (store : Store) (value : Value) (declared : TypeRef) :
    viewFor store.bare value declared = viewFor store value declared := by
  have interface (key : TypeKey) :
      (store.bare.types.type key).isInterface = (store.types.type key).isInterface :=
    (congrArg HostType.isInterface (store.types.type_bare key)).trans rfl
  unfold viewFor
  simp only [interface, Store.isInstance_bare]

theorem proxyReference_agrees (engine : EngineId) (value : Value) (declared : TypeRef)
    (flags : ItemFlags) : IsBlind free cut (proxyReference engine value declared flags) :=
  .bind_same (.holdCells _) fun _ =>
    .bind_same (.readStore fun store => viewFor_bare store value declared) fun view =>
      .bind_same (reserve_agrees engine) fun _ => findReference_agrees engine value view flags

theorem adopt_agrees (engine : EngineId) (value : Script.Value) :
    IsBlind free cut (adopt engine value) := by
  unfold adopt
  refine .bind_same (.holdCells _) fun _ => ?_
  split
  · refine .bind_same (.readStore fun _ => rfl) fun proxy => ?_
    split
    · exact .pure _
    · split
      · exact .bind_same (findHandle_agrees _ _ _) fun _ => .pure _
      · exact .bind_same (boxValue_agrees _ _ _) fun _ => .pure _
      · refine .bind_same (.observe fun _ => rfl) fun reached => ?_
        refine .bind_same (.ofExcept _) fun target => .bind_same (.holdCells _) fun _ => ?_
        refine .bind_same (reserve_agrees engine) fun _ => ?_
        exact .bind_same (findReference_agrees _ _ _ _) fun _ => .pure _
  · exact .pure _

/-! ### Marshaling -/

variable {calls twin : Calls}

theorem exportItems_agrees {engine : EngineId} (element : TypeRef)
    (marshal : ∀ item, Agrees free cut Eq (calls.toScript engine item element)
      (twin.toScript engine item element)) (items : List Value) :
    Agrees free cut Eq (exportItems calls engine element items)
      (exportItems twin engine element items) := by
  induction items with
  | nil => exact .pure _
  | cons item rest inductionHypothesis =>
    refine .bind_same (.held (marshal item)) fun converted => ?_
    exact .bind_same inductionHypothesis fun _ => .pure _

/-- Marshaling agrees where the marshaling of items does. -/
theorem toScript_agrees_of {engine : EngineId}
    (marshal : ∀ item element, Agrees free cut Eq (calls.toScript engine item element)
      (twin.toScript engine item element)) (value : Value) (declared : TypeRef) :
    Agrees free cut Eq (toScript calls engine value declared)
      (toScript twin engine value declared) := by
  have asReference : IsBlind free cut (do
      return .proxy (← proxyReference engine value declared .none) : ScriptRun Script.Value) :=
    .bind_same (proxyReference_agrees _ _ _ _) fun _ => .pure _
  have asBoxed : IsBlind free cut (do
      return .proxy (← boxValue engine value .none) : ScriptRun Script.Value) :=
    .bind_same (boxValue_agrees _ _ _) fun _ => .pure _
  refine .inScope _ (.bind_same (.engine engine) fun state => ?_)
  cases value with
  | dateTime moment =>
    dsimp only
    split
    · exact .pure _
    · exact asBoxed
  | enumeration | struct => exact asBoxed
  | type type =>
    refine .bind_same (reserve_agrees engine) fun _ => ?_
    exact .bind_same (findHandle_agrees _ _ _) fun _ => .pure _
  | script handle =>
    refine .bind_same (.readStore fun _ => rfl) fun inner => ?_
    cases inner with
    | some inner => exact adopt_agrees engine _
    | none => exact .pure _
  | array cell =>
    dsimp only
    by_cases byValue : state.options.arraysByValue = true
    · rw [if_pos byValue, if_pos byValue]
      refine .bind_same (.readStore fun _ => rfl) fun element => ?_
      refine .bind_same (.readStore fun _ => rfl) fun items => ?_
      refine .bind_same (exportItems_agrees element (marshal · element) _) fun values => ?_
      exact .bind_same (.create _) fun _ => .pure _
    · rw [if_neg byValue, if_neg byValue]
      exact asReference
  | delegate cell =>
    refine .bind_same (.readStore fun _ => rfl) fun function => ?_
    cases function with
    | some function => exact .pure _
    | none => exact asReference
  | object | box => exact asReference
  | _ => exact .pure _

theorem toScript_agrees (agree : calls.Agree free cut twin) (engine : EngineId) (value : Value)
    (declared : TypeRef) :
    Agrees free cut Eq (toScript calls engine value declared)
      (toScript twin engine value declared) :=
  toScript_agrees_of (agree.toScript engine) value declared

end ScriptBridge.Bridge
