/-
This file follows runs that change no cell that was there. Cells only come and go
while frames are entered and left and arguments are converted. An offer to a dynamic
capability that is turned down is such a run: what the offer started, it did not change
a cell by, since what does change one is only ever part of an offer that is taken.
-/

import ScriptBridge.Proofs.DynamicSteps

namespace ScriptBridge

open Run

/-! ### Stores that wane -/

/-- From the earlier store to the later the types stay, and a cell stays as it is or dies. -/
structure Store.Wanes (earlier later : Store) : Prop where
  types : later.types = earlier.types
  size_le : earlier.cells.size ≤ later.cells.size
  stays : ∀ {cell contents}, cell < earlier.cells.size → later.get? cell = some contents →
    earlier.get? cell = some contents

namespace Store

theorem Wanes.refl (store : Store) : store.Wanes store := ⟨rfl, Nat.le_refl _, fun _ found => found⟩

theorem Wanes.trans {first second third : Store} (left : first.Wanes second)
    (right : second.Wanes third) : first.Wanes third where
  types := right.types.trans left.types
  size_le := Nat.le_trans left.size_le right.size_le
  stays inside found :=
    left.stays inside (right.stays (Nat.lt_of_lt_of_le inside left.size_le) found)

theorem Extends.wanes {earlier later : Store} (extends_ : earlier.Extends later) :
    earlier.Wanes later where
  types := extends_.types
  size_le := extends_.size_le
  stays inside found := extends_.get? _ inside ▸ found

theorem wanes_remove (store : Store) (cell : CellId) : store.Wanes (store.remove cell) where
  types := rfl
  size_le := Nat.le_of_eq (size_remove store cell).symm
  stays _ found := get?_of_get?_remove found

/-- What is alive keeps its type. -/
theorem Wanes.typeOf {earlier later : Store} (wanes : earlier.Wanes later) {value : Host.Value}
    (living : ∀ cell, value.identity? = some cell →
      cell < earlier.cells.size ∧ later.isLive cell = true) :
    later.typeOf value = earlier.typeOf value := by
  have same (cell : CellId) (identity : value.identity? = some cell) :
      later.get? cell = earlier.get? cell := by
    obtain ⟨inside, lives⟩ := living cell identity
    obtain ⟨contents, found⟩ := isLive_iff.mp lives
    rw [found, wanes.stays inside found]
  cases value with
  | object cell =>
    have typed : later.objectType cell = earlier.objectType cell := by
      unfold objectType
      rw [same cell rfl]
    exact congrArg Host.TypeRef.named typed
  | array cell =>
    have typed : later.element cell = earlier.element cell := by
      unfold element
      rw [same cell rfl]
    exact congrArg Host.TypeRef.array typed
  | delegate cell =>
    have typed : later.delegateType cell = earlier.delegateType cell := by
      unfold delegateType
      rw [same cell rfl]
    exact congrArg Host.TypeRef.named typed
  | box cell =>
    have typed : later.boxType cell = earlier.boxType cell := by
      unfold boxType
      rw [same cell rfl]
    exact congrArg Host.TypeRef.box typed
  | _ => rfl

end Store

/-- The store of the world wanes, and its engines keep their policies. -/
structure World.Wanes (before after : World) : Prop where
  store : before.store.Wanes after.store
  policy : ∀ engine, (after.engine engine).policy = (before.engine engine).policy

instance : RunRelation World.Wanes where
  refl world := ⟨.refl world.store, fun _ => rfl⟩
  trans left right :=
    ⟨left.store.trans right.store, fun engine => (right.policy engine).trans (left.policy engine)⟩
  held world _ := ⟨.refl world.store, fun _ => rfl⟩

theorem World.Wanes.of_same {before after : World} (store : after.store = before.store)
    (engines : after.engines = before.engines) : before.Wanes after where
  store := store ▸ .refl _
  policy engine := by
    unfold World.engine
    rw [engines]

theorem World.Burials.wanes {before after : World} (burials : Burials before after) :
    before.Wanes after where
  policy := burials.keeps.policy
  store := by
    induction burials with
    | refl => exact .refl _
    | @tail world _ _ last wanes =>
      obtain @⟨cell, contents, living, _⟩ := last
      refine wanes.trans ?_
      rw [World.store_bury living]
      exact Store.wanes_remove _ cell

theorem Grows.wanes {before after : World} (grows : Grows before after) : before.Wanes after where
  store := grows.extends.wanes
  policy engine := by
    induction grows with
    | refl => rfl
    | tail _ step inductionHypothesis =>
      cases step with
      | held => exact inductionHypothesis
      | create contents converted => exact inductionHypothesis

/-- A relation that takes in burials, and changes of engines that keep their policies. -/
class SweepRelation (relation : World → World → Prop) : Prop extends RunRelation relation where
  reap : ∀ world, relation world world.reap
  modifyEngine : ∀ (world : World) (engine : EngineId) {change : Engine → Engine},
    (∀ state, (change state).policy = state.policy) →
      relation world (world.modifyEngine engine change)

instance : SweepRelation World.Wanes where
  reap world := (World.reap_spec world).1.wanes
  modifyEngine world _ _ policy := ⟨.refl world.store, World.part_modifyEngine policy⟩

namespace Run

variable {Failure Other Result Next : Type}

section

variable {relation : World → World → Prop} [SweepRelation relation]

theorem reap_sweeps : Leaves relation (reap : Run Failure Unit) := SweepRelation.reap

theorem modifyEngine_sweeps (engine : EngineId) {change : Engine → Engine}
    (policy : ∀ state, (change state).policy = state.policy) :
    Leaves relation (modifyEngine engine change : Run Failure Unit) :=
  fun world => SweepRelation.modifyEngine world engine policy

end

theorem note_wanes (event : Binding.MemberEvent) :
    Leaves World.Wanes (note event : Run Failure Unit) :=
  fun _ => .of_same rfl rfl

/-! ### Results of a kind -/

/-- Where the run has a result of the kind, the world has waned. -/
def WanesFor (run : Run Failure Result) (kind : Result → Prop) : Prop :=
  ∀ ⦃world result after⦄, run.outcome world = (.ok result, after) → kind result → world.Wanes after

namespace WanesFor

variable {kind : Result → Prop} {goal : Next → Prop} {run : Run Failure Result}
  {next : Result → Run Failure Next}

theorem of_leaves (leaves : Leaves World.Wanes run) : run.WanesFor kind := by
  intro world result after ran _
  have wanes := leaves world
  rw [ran] at wanes
  exact wanes

theorem of_never (never : ∀ result, run.Yields result → ¬kind result) : run.WanesFor kind :=
  fun world result after ran is => absurd is (never result ⟨world, after, ran⟩)

/-- Where results of the kind come only of such before, only these matter. -/
theorem bind {before : Result → Prop} (first : run.WanesFor before)
    (comes : ∀ {result last}, (next result).Yields last → goal last → before result)
    (second : ∀ result, before result → (next result).WanesFor goal) :
    (run >>= next).WanesFor goal := by
  intro world last after ran is
  obtain ⟨result, between, went, goes⟩ := outcome_bind_eq_ok.mp ran
  have was := comes ⟨between, after, goes⟩ is
  exact RunRelation.trans (first went was) (second result was goes is)

theorem leaves_bind (first : Leaves World.Wanes run)
    (second : ∀ result, (next result).WanesFor goal) : (run >>= next).WanesFor goal :=
  bind (.of_leaves first : run.WanesFor fun _ => True) (fun _ _ => trivial)
    fun result _ => second result

theorem hold [HoldsCells Result] (wanes : run.WanesFor kind) : (held run).WanesFor kind :=
  bind wanes (fun yields is => by
    obtain ⟨world, after, ran⟩ := yields
    cases ran
    exact is) fun result _ => .of_leaves (Leaves.hold result)

theorem scope (wanes : run.WanesFor kind) : (Run.scope run).WanesFor kind := by
  intro world result after ran is
  rw [outcome_scope] at ran
  rcases went : run.outcome world with ⟨ended, left⟩
  rw [went] at ran
  cases ran
  have waned : world.Wanes left := wanes went is
  exact RunRelation.trans waned (RunRelation.held left world.held)

theorem mapFailure {change : World → Failure → Other} (wanes : run.WanesFor kind) :
    (run.mapFailure change).WanesFor kind := by
  intro world result after ran is
  rw [outcome_mapFailure] at ran
  rcases went : run.outcome world with ⟨(error | _) | value, left⟩ <;> rw [went] at ran <;>
    cases ran
  exact wanes went is

/-- A settled run wanes for values of the kind. -/
theorem settle (wanes : run.WanesFor kind) :
    (run.settle : Run Other (Except Failure Result)).WanesFor
      fun settled => ∃ result, settled = .ok result ∧ kind result := by
  intro world settled after ran is
  obtain ⟨result, rfl, is⟩ := is
  rw [outcome_settle] at ran
  rcases went : run.outcome world with ⟨(error | _) | value, left⟩ <;> rw [went] at ran <;>
    cases ran
  exact wanes went is

end WanesFor

end Run

/-! ### Frames -/

namespace Bridge

variable {Failure Result : Type} {kind : Result → Prop}

section

variable {relation : World → World → Prop} [SweepRelation relation]

theorem releaseDropped_sweeps (engine : EngineId) :
    Leaves relation (releaseDropped engine : Run Failure Nat) :=
  .bind reap_sweeps fun _ => .bind (.engine engine) fun _ =>
    .bind (modifyEngine_sweeps engine fun _ => rfl) fun _ => .pure _

theorem sweep_sweeps (engine : EngineId) :
    Leaves relation (sweep engine : Run Failure Swept) :=
  .bind (releaseDropped_sweeps engine) fun _ => .bind reap_sweeps fun _ => .bind (.readStore _)
    fun _ => .bind (.engine engine) fun _ => .bind (modifyEngine_sweeps engine fun _ => rfl)
      fun _ => .pure _

theorem settleEngine_sweeps (engine : EngineId) (collectionOwed : Bool) :
    Leaves relation (settleEngine engine collectionOwed) := by
  unfold settleEngine
  split
  · exact .discard (sweep_sweeps engine)
  · exact .discard (releaseDropped_sweeps engine)

end

/-- A frame wanes for what its body wanes for. -/
theorem frame_wanesFor [HoldsCells Result] (engine : EngineId) (frameKind : FrameKind)
    {body : ScriptRun Result} (wanes : body.WanesFor kind) :
    (frame engine frameKind body).WanesFor kind := by
  unfold frame frameWith
  refine .leaves_bind (.engine engine) fun state => .leaves_bind (.ofExcept _) fun entered => ?_
  refine .leaves_bind (modifyEngine_sweeps engine fun _ => rfl) fun _ => ?_
  refine .bind (.settle (.scope (.leaves_bind (.ofExcept _) fun _ => wanes))) ?_ ?_
  · -- the result of the frame is that of the body
    intro outcome last yields is
    obtain ⟨left, yields⟩ := yields.of_bind
    generalize left.session.leave (failure? outcome) = leaves at yields
    obtain ⟨session, ended⟩ := leaves
    obtain ⟨_, yields⟩ := yields.of_bind
    refine ⟨last, ?_, is⟩
    cases ended with
    | none => exact yields.of_ofExcept
    | some collectionOwed =>
      obtain ⟨_, yields⟩ := yields.of_bind
      exact yields.of_ofExcept
  · intro outcome _
    refine .leaves_bind (.engine engine) fun left => ?_
    rcases left.session.leave (failure? outcome) with ⟨session, ended⟩
    refine .leaves_bind (modifyEngine_sweeps engine fun _ => rfl) fun _ => ?_
    cases ended with
    | none => exact .of_leaves (.ofExcept _)
    | some collectionOwed =>
      refine .leaves_bind (.inScope _ ?_) fun _ => .of_leaves (.ofExcept _)
      exact settleEngine_sweeps engine _

/-- Host code in a frame wanes for what it wanes for by itself. -/
theorem callHost_wanesFor [HoldsCells Result] (engine : EngineId) {body : HostRun Result}
    (wanes : body.WanesFor kind) : (callHost engine body).WanesFor kind :=
  .leaves_bind (requireAlive_leaves engine) fun _ =>
    frame_wanesFor engine .hostCall wanes.mapFailure

theorem toHostValue_wanes (engine : EngineId) (value : Script.Value) :
    Leaves World.Wanes (toHostValue engine value : Run Failure Host.Value) :=
  (toHostValue_grows engine value).mono Grows.wanes

theorem toHostValues_wanes (engine : EngineId) (values : List Script.Value) :
    Leaves World.Wanes (toHostValues engine values : Run Failure (List Host.Value)) :=
  (toHostValues_grows engine values).mono Grows.wanes

end Bridge

/-! ### Offers that are turned down -/

namespace Binding

open Host Bridge

theorem dynamicOf?_wanes (proxy : CellId) (target : Value) (request : Request) :
    Leaves World.Wanes (dynamicOf? proxy target request) := by
  refine .bind (.readStore _) fun found => ?_
  cases found with
  | none => exact .pure _
  | some object => exact .bind (note_wanes _) fun _ => .pure _

/-- An offer that is turned down changes no cell where what was asked then changes none. -/
theorem offer_wanesFor {Answer : Type} (proxy : CellId) (target : Value) (request : Request)
    {unasked : Answer} {ask : CellId → ScriptRun Answer} {refused : Answer → Prop}
    (asked : ∀ object, (ask object).WanesFor refused) :
    (offer proxy target request unasked ask).WanesFor refused := by
  refine .leaves_bind (dynamicOf?_wanes proxy target _) fun found => ?_
  cases found with
  | some object => exact asked object
  | none => exact .of_leaves (.pure _)

/-- Writing changes a cell only where it is handled. -/
theorem writeDynamic_wanesFor (cell : CellId) (operation : Capability) (key : String)
    (value : Value) : (writeDynamic cell operation key value).WanesFor (· = false) := by
  unfold writeDynamic
  refine .leaves_bind (capability_leaves cell) fun dynamic => ?_
  split
  · exact .of_leaves (.pure _)
  · refine .of_never fun result yields refused => ?_
    obtain ⟨_, yields⟩ := yields.of_bind
    obtain ⟨_, yields⟩ := yields.of_bind
    cases yields.of_pure.trans refused

theorem offerSet_wanesFor (engine : EngineId) (proxy : CellId) (target : Value) (name : String)
    (value : Script.Value) :
    (offerSet engine proxy target name value).WanesFor (· = false) := by
  refine offer_wanesFor proxy target _ fun object => ?_
  refine .leaves_bind (.held (toHostValue_wanes engine value)) fun _ => ?_
  exact callHost_wanesFor engine (writeDynamic_wanesFor _ _ _ _)

theorem offerSetIndex_wanesFor (engine : EngineId) (proxy : CellId) (target : Value)
    (keys : List Script.Value) (value : Script.Value) :
    (offerSetIndex engine proxy target keys value).WanesFor (· = false) := by
  refine offer_wanesFor proxy target _ fun object => ?_
  refine .leaves_bind (toHostValues_wanes engine keys) fun _ => ?_
  refine .leaves_bind (keyText_leaves _) fun _ => ?_
  refine .leaves_bind (.held (toHostValue_wanes engine value)) fun _ => ?_
  exact callHost_wanesFor engine (writeDynamic_wanesFor _ _ _ _)

section

variable {calls : Calls}

/-- A body that runs has an answer. -/
theorem runDynamic_wanesFor (engine : EngineId) (body : Option Code) (arguments : List Value) :
    (runDynamic calls engine body arguments).WanesFor (· = none) := by
  cases body with
  | none => exact .of_leaves (.pure _)
  | some code =>
    refine .of_never fun result yields refused => ?_
    obtain ⟨⟨answer, left⟩, yields⟩ := yields.of_bind
    cases yields.of_pure.trans refused

/-- Script gets no answer where nothing was found, and then nothing is marshaled. -/
theorem answer_wanesFor {engine : EngineId} {run : ScriptRun (Option Value)}
    (wanes : run.WanesFor (· = none)) :
    (run >>= answer calls engine).WanesFor (· = none) := by
  refine .bind wanes (fun {found last} yields refused => ?_) fun found nothing => ?_
  · cases found with
    | none => rfl
    | some value =>
      obtain ⟨converted, yields⟩ := Yields.of_bind yields
      cases yields.of_pure.trans refused
  · rw [nothing]
    exact .of_leaves (.pure _)

theorem offerGet_wanesFor (engine : EngineId) (proxy : CellId) (target : Value) (name : String) :
    (offerGet calls engine proxy target name).WanesFor (· = none) :=
  offer_wanesFor proxy target _ fun _ =>
    answer_wanesFor (.hold (callHost_wanesFor engine (.of_leaves (readDynamic_leaves _ _ _))))

theorem offerGetIndex_wanesFor (engine : EngineId) (proxy : CellId) (target : Value)
    (keys : List Script.Value) :
    (offerGetIndex calls engine proxy target keys).WanesFor (· = none) := by
  refine offer_wanesFor proxy target _ fun object => ?_
  refine .leaves_bind (toHostValues_wanes engine keys) fun _ => ?_
  refine .leaves_bind (keyText_leaves _) fun _ => ?_
  exact answer_wanesFor (.hold (callHost_wanesFor engine (.of_leaves (readDynamic_leaves _ _ _))))

/-- A body of a capability that is not there changes nothing. -/
theorem askBody_wanesFor (engine : EngineId) (body : Dynamic → Option Code)
    (arguments : List Script.Value) (object : CellId) :
    (askBody calls engine body arguments object).WanesFor (· = none) := by
  refine .leaves_bind (toHostValues_wanes engine arguments) fun converted => ?_
  refine answer_wanesFor (.hold (callHost_wanesFor engine ?_))
  exact .leaves_bind (capability_leaves object) fun _ => runDynamic_wanesFor engine _ converted

theorem offerInvoke_wanesFor (engine : EngineId) (proxy : CellId) (target : Value)
    (name : String) (arguments : List Script.Value) :
    (offerInvoke calls engine proxy target name arguments).WanesFor (· = none) :=
  offer_wanesFor proxy target _ (askBody_wanesFor engine _ arguments)

theorem offerCall_wanesFor (engine : EngineId) (proxy : CellId) (target : Value)
    (arguments : List Script.Value) :
    (offerCall calls engine proxy target arguments).WanesFor (· = none) :=
  offer_wanesFor proxy target _ (askBody_wanesFor engine _ arguments)

end

end Binding

end ScriptBridge
