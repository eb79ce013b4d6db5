/-
This file says what a write comes to. It is for one receiver: the setter of a member, an
element of an array, the value of a box or a field of a boxed struct. Either that receives
the value once, converted to the type declared for it, or the write fails and nothing has
changed. An assignment that is passed on goes through members that answer with what to
assign to; what these do is theirs, and each of them may also end it.
-/

import ScriptBridge.Proofs.AssignmentTunnels
import ScriptBridge.Proofs.Offers

namespace ScriptBridge

open Host Run Bridge Binding

/-! ### Glances -/

/-- The world rests, with the very cells and engines that there were. -/
structure World.Glances (before after : World) : Prop where
  rests : before.Rests after
  store : after.store = before.store
  engines : after.engines = before.engines

instance : RunRelation World.Glances where
  refl world := ⟨RunRelation.refl world, rfl, rfl⟩
  trans left right :=
    ⟨left.rests.trans right.rests, right.store.trans left.store, right.engines.trans left.engines⟩
  held world held := ⟨RunRelation.held world held, rfl, rfl⟩

namespace World.Glances

variable {before after : World} {proxy : CellId}

theorem targetOf (glances : before.Glances after) :
    after.targetOf proxy = before.targetOf proxy := by
  unfold World.targetOf World.engine
  rw [glances.store, glances.engines]

theorem dynamicBehind? (glances : before.Glances after) :
    after.dynamicBehind? proxy = before.dynamicBehind? proxy := by
  unfold World.dynamicBehind?
  rw [glances.targetOf, glances.store]

end World.Glances

/-- What a look shows is current, and stays so. -/
theorem outcome_look_eq_ok {engine : EngineId} {proxy : CellId} {world after : World}
    {scene : Scene} (looked : (look engine proxy).outcome world = (.ok scene, after)) :
    scene.IsCurrent after ∧ scene.proxy = proxy := by
  rw [outcome_look] at looked
  cases leads : world.targetOf proxy with
  | error error =>
    rw [leads] at looked
    cases looked
  | ok target =>
    rw [leads] at looked
    cases looked
    exact ⟨⟨target, leads, rfl⟩, rfl⟩

theorem look_glances (engine : EngineId) (proxy : CellId) :
    Leaves World.Glances (look engine proxy) :=
  .bind (subjectOf_leaves proxy) fun _ => .bind (sceneOf_leaves engine proxy _) fun scene =>
    .bind (fun _ => ⟨⟨.of_same rfl rfl, rfl, [scene], rfl⟩, rfl, rfl⟩) fun _ => .pure _

/-- A subject without a type of its own is the value itself. -/
theorem eq_of_subjectIn_plain {store : Store} {target value : Value}
    (plain : subjectIn store target = .plain value) : target = value := by
  unfold subjectIn at plain
  split at plain
  · cases plain
  · split at plain
    · cases plain
    · cases plain
      rfl

/-- What lies behind a scene whose subject has no type of its own. -/
theorem Binding.Scene.IsCurrent.targetOf {scene : Scene} {world : World} {value : Value}
    (current : scene.IsCurrent world) (plain : scene.subject = .plain value) :
    world.targetOf scene.proxy = .ok value := by
  obtain ⟨target, leads, shown⟩ := current
  rw [shown] at plain
  rw [leads, eq_of_subjectIn_plain plain]

/-- The store with a field replaced of the struct that a proxy holds. -/
def Store.setField (store : Store) (proxy : CellId) (place : Nat) (value : Value) : Store :=
  match (store.proxy proxy).target with
  | .boxed (.struct type fields) =>
    store.put proxy (.proxy
      { store.proxy proxy with target := .boxed (.struct type (fields.set place value)) })
  | _ => store

namespace Binding

variable {calls : Calls} {engine : EngineId} {world : World} {proxy : CellId} {name : String}
  {value : Script.Value} {scene : Scene} {slot : Slot} {depth : Nat} {keys : List Script.Value}

/-! ### Receivers -/

/-- What a write is for: the setter of a member, with keys if that is an indexer, an element of an
array, the value of a box, or a field of the struct that a proxy holds. -/
inductive Receiver
  | setter (scene : Scene) (slot : Slot) (set : Body) (keys : List Value)
  | element (array : CellId) (type : TypeRef) (place : Nat)
  | box (cell : CellId) (type : TypeRef)
  | field (scene : Scene) (slot : Slot) (place : Nat)

namespace Receiver

/-- The type declared for it. -/
def type : Receiver → TypeRef
  | setter _ slot _ _ | field _ slot _ => slot.declaration.type
  | element _ type _ | box _ type => type

/-- It lies behind the proxy, has the type declared for it, and script may write it. -/
def IsOpen (world : World) (proxy : CellId) : Receiver → Prop
  | setter scene slot set _ => scene.proxy = proxy ∧ scene.IsCurrent world ∧
    (MemberUse.mk scene slot (.write set)).IsPermitted
  | element array type _ =>
    world.targetOf proxy = .ok (.array array) ∧ world.store.element array = type
  | box cell type => world.targetOf proxy = .ok (.box cell) ∧ world.store.boxType cell = type
  | field scene slot place => scene.proxy = proxy ∧ scene.IsCurrent world ∧
    (MemberUse.mk scene slot (.writeField place)).IsPermitted

/-- There is room for a value. -/
def IsThere (store : Store) : Receiver → Prop
  | element array _ place => place < (store.hostItems array).size
  | field scene _ place => ∃ type fields,
    (store.proxy scene.proxy).target = .boxed (.struct type fields) ∧ place < fields.length
  | _ => True

/-- Receives a value: a setter runs, the rest is replaced in the store. -/
def receive (calls : Calls) (value : Value) : Receiver → HostRun Unit
  | setter scene slot set keys =>
    discard (useBody calls scene slot .write set
      { self := scene.subject.self, assigned := some value } keys)
  | element array type place => modifyStore fun store =>
    store.put array (.hostArray type ((store.hostItems array).setIfInBounds place value))
  | box cell _ => modifyStore (·.setBox cell value)
  | field scene slot place => do
    note (.used ⟨scene, slot, .writeField place⟩)
    modifyStore (·.setField scene.proxy place value)

end Receiver

/-! ### How writes end -/

/-- How a write on a proxy ends. It is refused, and nothing has changed; or one receiver that lies
behind the proxy receives the value, converted to the type declared for it, and nothing changes
before and after. Then the write fails only if the receiver does. -/
inductive WriteEnds (calls : Calls) (engine : EngineId) (proxy : CellId) (value : Script.Value)
    (world : World) : Except (Halt ScriptError) Unit × World → Prop
  | refused {halt : Halt ScriptError} {after : World} (rests : world.Rests after) :
      WriteEnds calls engine proxy value world (.error halt, after)
  | received {receiver : Receiver} {converted : Converted}
      {seen ready start entered left after : World} {result : Except (Halt HostError) Unit}
      (looks : world.Rests seen) (isOpen : receiver.IsOpen seen proxy)
      (prepares : Grows seen ready)
      (converts : (toHost engine value receiver.type).outcome ready = (.ok converted, start))
      (enters : start.Rests entered) (store : entered.store = start.store)
      (isThere : receiver.IsThere entered.store)
      (receives : (receiver.receive calls converted.value).outcome entered = (result, left))
      (leaves : left.Rests after) :
      WriteEnds calls engine proxy value world (seenIn (hostFailure engine) left result, after)

/-- Ways for an assignment to end, failures that change nothing among them, for which neither a
glance before matters nor anything that rests after. -/
class Endings (ends : World → Except (Halt ScriptError) Unit × World → Prop) : Prop where
  refused : ∀ {world after halt}, world.Rests after → ends world (.error halt, after)
  earlier : ∀ {world ready outcome}, world.Glances ready → ends ready outcome → ends world outcome
  later : ∀ {world result left after}, ends world (result, left) → left.Rests after →
    ends world (result, after)

instance (calls : Calls) (engine : EngineId) (proxy : CellId) (value : Script.Value) :
    Endings (WriteEnds calls engine proxy value) where
  refused rests := .refused rests
  earlier glances ends := by
    cases ends with
    | refused rests => exact .refused (glances.rests.trans rests)
    | received looks isOpen prepares converts enters store isThere receives leaves =>
      exact .received (glances.rests.trans looks) isOpen prepares converts enters store isThere
        receives leaves
  later ends rests := by
    cases ends with
    | refused further => exact .refused (further.trans rests)
    | received looks isOpen prepares converts enters store isThere receives leaves =>
      exact .received looks isOpen prepares converts enters store isThere receives
        (leaves.trans rests)

namespace Endings

variable {ends : World → Except (Halt ScriptError) Unit × World → Prop} [Endings ends]

theorem raise (error : ScriptError) (world : World) :
    ends world ((Run.raise error : ScriptRun Unit).outcome world) :=
  refused (RunRelation.refl world)

/-- What follows a glance ends as it does from where the glance leaves it. -/
theorem bind {Result : Type} {run : ScriptRun Result} {next : Result → ScriptRun Unit}
    (first : Leaves World.Glances run) (second : ∀ result ready, world.Glances ready →
      run.outcome world = (.ok result, ready) → ends ready ((next result).outcome ready)) :
    ends world ((run >>= next).outcome world) := by
  have glances := first world
  rw [outcome_bind]
  rcases ran : run.outcome world with ⟨halt | result, ready⟩
  · rw [ran] at glances
    exact refused glances.rests
  · rw [ran] at glances
    exact earlier glances (second result ready glances ran)

theorem inScope (cells : List CellId) {run : ScriptRun Unit} (inside : ∀ ready,
    world.Glances ready → ends ready (run.outcome ready)) :
    ends world ((scope (do holdCells cells; run)).outcome world) := by
  have ended : ends world ((do holdCells cells; run : ScriptRun Unit).outcome world) :=
    bind (.holdCells cells) fun _ ready glances _ => inside ready glances
  exact later ended (RunRelation.held _ world.held)

end Endings

/-! ### Writes to receivers -/

/-- A write that goes on with a converted value ends as it does from there. -/
theorem converted_ends {ready : World} {type : TypeRef} {next : Converted → ScriptRun Unit}
    (rests : world.Rests ready) (goesOn : ∀ converted start,
      (toHost engine value type).outcome ready = (.ok converted, start) →
        WriteEnds calls engine proxy value world
          ((next converted).outcome (start.holding (HoldsCells.cells converted)))) :
    WriteEnds calls engine proxy value world
      ((held (converting (toHost engine value type)) >>= next).outcome ready) := by
  have grows := toHost_grows engine value type ready
  have seen : (converting (toHost engine value type)).outcome ready = _ :=
    outcome_mapFailure _ _ ready
  rcases ran : (toHost engine value type).outcome ready with ⟨(error | _) | converted, start⟩
  · rw [ran] at seen grows
    rw [outcome_bind_of_error (outcome_held_of_error seen)]
    exact .refused (rests.trans grows.rests)
  · rw [ran] at seen grows
    rw [outcome_bind_of_error (outcome_held_of_error seen)]
    exact .refused (rests.trans grows.rests)
  · rw [ran] at seen
    rw [outcome_bind_of_ok (outcome_held_eq_ok.mpr ⟨start, seen, rfl⟩)]
    exact goesOn converted start ran

section

variable {converted : Converted} {seen ready start left : World} {receiver : Receiver}

/-- Up to the conversion of a value nothing has changed. -/
theorem rests_of_converts {type : TypeRef} (prepares : Grows seen ready)
    (converts : (toHost engine value type).outcome ready = (.ok converted, start)) :
    seen.Rests (start.holding (HoldsCells.cells converted)) := by
  have grows := toHost_grows engine value type ready
  rw [converts] at grows
  have grown : Grows seen start := RunRelation.trans prepares grows
  exact grown.rests.trans (RunRelation.held start _)

/-- A receiver in the store receives the value as soon as it is converted. -/
theorem stored_ends (isOpen : receiver.IsOpen seen proxy) (prepares : Grows seen ready)
    (converts : (toHost engine value receiver.type).outcome ready = (.ok converted, start))
    (isThere : receiver.IsThere start.store)
    (receives : (receiver.receive calls converted.value).outcome
      (start.holding (HoldsCells.cells converted)) = (.ok (), left)) :
    WriteEnds calls engine proxy value seen (.ok (), left) := by
  have holds : start.Rests (start.holding (HoldsCells.cells converted)) :=
    RunRelation.held start _
  have received : WriteEnds calls engine proxy value seen
      (seenIn (hostFailure engine) left (.ok ()), left) :=
    .received (RunRelation.refl seen) isOpen prepares converts holds rfl isThere receives
      (RunRelation.refl left)
  exact received

/-- A setter receives the value, unless its frame is refused. -/
theorem writeAccessor_ends {set : Body} {keys : List Value}
    (isOpen : (Receiver.setter scene slot set keys).IsOpen seen proxy)
    (prepares : Grows seen ready)
    (converts : (toHost engine value slot.declaration.type).outcome ready =
      (.ok converted, start)) :
    WriteEnds calls engine proxy value seen
      ((writeAccessor calls engine scene slot set keys converted.value).outcome
        (start.holding (HoldsCells.cells converted))) := by
  set setting := (Receiver.setter scene slot set keys).receive calls converted.value
  show WriteEnds calls engine proxy value seen ((callHost engine setting).outcome _)
  have framed := callHost_framed engine setting (start.holding (HoldsCells.cells converted))
  generalize (callHost engine setting).outcome _ = outcome at framed ⊢
  cases framed with
  | refused rests => exact .refused ((rests_of_converts prepares converts).trans rests)
  | ended enters _ store ran rests =>
    have holds : start.Rests (start.holding (HoldsCells.cells converted)) :=
      RunRelation.held start _
    exact .received (RunRelation.refl seen) isOpen prepares converts (holds.trans enters) store
      trivial ran rests

/-- A field receives the value if the proxy holds a struct that has it. -/
theorem writeField_ends {place : Nat}
    (isOpen : (Receiver.field scene slot place).IsOpen seen proxy) (prepares : Grows seen ready)
    (converts : (toHost engine value slot.declaration.type).outcome ready =
      (.ok converted, start)) :
    WriteEnds calls engine proxy value seen
      ((writeField scene slot name place converted.value).outcome
        (start.holding (HoldsCells.cells converted))) := by
  have rests := rests_of_converts prepares converts
  unfold writeField
  rw [outcome_bind_of_ok (outcome_readStore _ _)]
  split
  · next type fields boxed =>
    split
    · next inside =>
      have stores : start.store.setField scene.proxy place converted.value =
          start.store.put scene.proxy (.proxy { start.store.proxy scene.proxy with
            target := .boxed (.struct type (fields.set place converted.value)) }) := by
        unfold Store.setField
        rw [show (start.store.proxy scene.proxy).target = _ from boxed]
      refine stored_ends isOpen prepares converts ⟨type, fields, boxed, inside⟩ ?_
      show (Except.ok (), { start.holding (HoldsCells.cells converted) with
        history := .used ⟨scene, slot, .writeField place⟩ :: start.history
        store := start.store.setField scene.proxy place converted.value }) = _
      rw [stores]
      rfl
    · exact .refused rests
  · exact .refused rests

/-- An element receives the value if the array has it. -/
theorem writeElement_ends {array : CellId} (leads : world.targetOf proxy = .ok (.array array))
    (key : Script.Value) :
    WriteEnds calls engine proxy value world
      ((writeElement engine array key value).outcome world) := by
  unfold writeElement
  refine Endings.bind (arrayPlace_leaves key) fun place ready glances _ => ?_
  rw [outcome_bind_of_ok (outcome_readStore _ _)]
  refine converted_ends (RunRelation.refl ready) fun converted start converts => ?_
  have isOpen : (Receiver.element array (ready.store.element array) place).IsOpen ready proxy :=
    ⟨glances.targetOf.trans leads, rfl⟩
  rw [outcome_bind_of_ok (outcome_readStore _ _)]
  split
  · next inside => exact stored_ends isOpen .refl converts inside rfl
  · exact .refused (rests_of_converts .refl converts)

theorem writeBox_ends {box : CellId} (leads : world.targetOf proxy = .ok (.box box)) :
    WriteEnds calls engine proxy value world ((writeBox engine box value).outcome world) := by
  unfold writeBox
  rw [outcome_bind_of_ok (outcome_readStore _ _)]
  refine converted_ends (RunRelation.refl world) fun converted start converts => ?_
  have isOpen : (Receiver.box box (world.store.boxType box)).IsOpen world proxy := ⟨leads, rfl⟩
  exact stored_ends isOpen .refl converts trivial rfl

end

/-! ### Writes on proxies -/

theorem writeSlot_ends (current : scene.IsCurrent world) (shown : scene.Shows slot)
    (may : scene.sight.mayWrite slot = true) :
    WriteEnds calls engine scene.proxy value world
      ((writeSlot calls engine scene slot name value).outcome world) := by
  unfold writeSlot
  refine converted_ends (RunRelation.refl world) fun converted start converts => ?_
  split
  · next set offers =>
    have permitted : (MemberUse.mk scene slot (.write set)).IsPermitted :=
      shown.mayWrite may (by rw [offers]; rfl)
    exact writeAccessor_ends ⟨rfl, current, permitted⟩ .refl converts
  · next place offers =>
    have permitted : (MemberUse.mk scene slot (.writeField place)).IsPermitted :=
      shown.mayWrite may (by rw [offers]; rfl)
    exact writeField_ends ⟨rfl, current, permitted⟩ .refl converts
  · exact .refused (rests_of_converts .refl converts)

theorem setSlot_ends (current : scene.IsCurrent world) :
    WriteEnds calls engine scene.proxy value world
      ((setSlot calls engine scene name value).outcome world) := by
  unfold setSlot
  split
  · exact Endings.raise _ world
  · next slot rest found =>
    split
    · exact Endings.raise _ world
    · split
      · exact Endings.raise _ world
      · next refused =>
        rw [Bool.or_eq_true, not_or, Bool.not_eq_true', Bool.not_eq_false] at refused
        exact writeSlot_ends current (shows_of_mem_lookup (found ▸ List.mem_cons_self)) refused.1

theorem writeIndexer_ends (current : scene.IsCurrent world) :
    WriteEnds calls engine scene.proxy value world
      ((writeIndexer calls engine scene name keys value).outcome world) := by
  have grows := resolve_grows engine Member.indexerName ((scene.lookup name).ofKind .indexer)
    (scene.lookup name).declared keys world
  unfold writeIndexer
  dsimp only
  rw [outcome_bind]
  rcases resolved : (resolve engine Member.indexerName ((scene.lookup name).ofKind .indexer)
    (scene.lookup name).declared keys).outcome world with ⟨halt | ⟨slot, prepared⟩, ready⟩
  · rw [resolved] at grows
    exact .refused grows.rests
  · rw [resolved] at grows
    dsimp only
    split
    · next set may offers =>
      refine converted_ends grows.rests fun converted start converts => ?_
      have permitted : (MemberUse.mk scene slot (.write set)).IsPermitted :=
        (shows_of_mem_ofKind (mem_of_resolve_yields ⟨world, ready, resolved⟩)).mayWrite may
          (by rw [offers]; rfl)
      exact writeAccessor_ends ⟨rfl, current, permitted⟩ grows converts
    · exact .refused grows.rests

/-- Where a proxy has no capability to ask, a name is written among the members. -/
theorem setStatic_ends (calls : Calls) (engine : EngineId) (proxy : CellId) (name : String)
    (value : Script.Value) (world : World) :
    WriteEnds calls engine proxy value world
      ((setStatic calls engine proxy name value).outcome world) := by
  unfold setStatic
  refine Endings.bind (look_glances engine proxy) fun scene ready _ looked => ?_
  obtain ⟨current, rfl⟩ := outcome_look_eq_ok looked
  split
  · next box plain _ => exact writeBox_ends (current.targetOf plain)
  · exact setSlot_ends current

/-- Nothing is asked where there is nothing to ask. -/
theorem outcome_offer_of_none {Answer : Type} {target : Value} {request : Request}
    {unasked : Answer} {ask : CellId → ScriptRun Answer}
    (plain : world.dynamicBehind? proxy = none) (leads : world.targetOf proxy = .ok target) :
    (offer proxy target request unasked ask).outcome world = (.ok unasked, world) := by
  unfold World.dynamicBehind? at plain
  rw [leads] at plain
  have unasked : dynamicIn? world.store proxy target = none := plain
  rw [outcome_offer, unasked]

/-- What a proxy led to it leads to. -/
theorem targetOf_of_target {target : Value} {after : World}
    (led : (Binding.target proxy).outcome world = (.ok target, after)) :
    after.targetOf proxy = .ok target := by
  cases leads : world.targetOf proxy with
  | error error =>
    unfold Binding.target at led
    rw [outcome_bind_of_ok (outcome_observe _ _), leads] at led
    cases led
  | ok other =>
    rw [outcome_target_of_ok leads] at led
    cases led
    exact leads

/-- Where a proxy has no capability to ask, names are for members. -/
theorem setMember_ends (calls : Calls) (engine : EngineId) (name : String) (value : Script.Value)
    (plain : world.dynamicBehind? proxy = none) :
    WriteEnds calls engine proxy value world
      ((setMember calls engine proxy name value).outcome world) := by
  unfold setMember
  refine Endings.inScope _ fun held holding => ?_
  refine Endings.bind (target_leaves proxy) fun target ready glances led => ?_
  have plain : ready.dynamicBehind? proxy = none :=
    glances.dynamicBehind?.trans (holding.dynamicBehind?.trans plain)
  have unasked : (offerSet engine proxy target name value).outcome ready = (.ok false, ready) :=
    outcome_offer_of_none plain (targetOf_of_target led)
  rw [outcome_bind_of_ok unasked]
  exact setStatic_ends calls engine proxy name value ready

/-- Where a proxy has no capability to ask, keys are for elements, indexers and members. -/
theorem setIndex_ends (calls : Calls) (engine : EngineId) (keys : List Script.Value)
    (value : Script.Value) (plain : world.dynamicBehind? proxy = none) :
    WriteEnds calls engine proxy value world
      ((setIndex calls engine proxy keys value).outcome world) := by
  unfold setIndex
  refine Endings.inScope _ fun held holding => ?_
  refine Endings.bind (target_leaves proxy) fun target ready glances led => ?_
  have plain : ready.dynamicBehind? proxy = none :=
    glances.dynamicBehind?.trans (holding.dynamicBehind?.trans plain)
  have unasked : (offerSetIndex engine proxy target keys value).outcome ready =
      (.ok false, ready) := outcome_offer_of_none plain (targetOf_of_target led)
  rw [outcome_bind_of_ok unasked]
  show WriteEnds calls engine proxy value ready
    ((setIndexStatic calls engine proxy target keys value).outcome ready)
  unfold setIndexStatic
  refine Endings.bind (look_glances engine proxy) fun scene looked glances shown => ?_
  obtain ⟨current, rfl⟩ := outcome_look_eq_ok shown
  split
  · next array key isArray => exact writeElement_ends (current.targetOf isArray) key
  · split
    · exact writeIndexer_ends current
    · exact setMember_ends calls engine _ value (glances.dynamicBehind?.trans plain)
    · exact Endings.bind (.typeText _) fun _ further _ _ => Endings.raise _ further

/-! ### Assignments that are passed on -/

/-- The proxy through which values are assigned by calls of a value. -/
def assignee? (store : Store) : Script.Value → Option CellId
  | .proxy proxy => some proxy
  | .member cell =>
    let member := store.member cell
    if member.kind == .indexer || member.kind == .method then some member.proxy else none
  | _ => none

/-- How an assignment at keys through a proxy ends, if there is one, where calls of the depth can be
started. It ends as a write does; or it goes through the passage of a name, which may end it, and
goes on with what that answers; or the proxy has a capability, which is offered what is assigned
without keys. -/
inductive AssignmentEnds (engine : EngineId) (keys : List Script.Value) (value : Script.Value) :
    Nat → Option CellId → World → Except (Halt ScriptError) Unit × World → Prop
  | refused {depth : Nat} {callee : Option CellId} {world after : World} {halt : Halt ScriptError}
      (rests : world.Rests after) :
      AssignmentEnds engine keys value depth callee world (.error halt, after)
  | ends {depth : Nat} {proxy : CellId} {world : World}
      {outcome : Except (Halt ScriptError) Unit × World}
      (ends : WriteEnds (Script.startWithin depth) engine proxy value world outcome) :
      AssignmentEnds engine keys value depth (some proxy) world outcome
  | lost {depth : Nat} {world ready left after : World} {scene : Scene} {name : String}
      {slot : Slot} {halt : Halt ScriptError} (glances : world.Glances ready)
      (current : scene.IsCurrent ready) (passage : scene.passage? name = some slot)
      (fails : (readPassage (Script.startWithin depth) engine scene slot).outcome ready =
        (.error halt, left))
      (rests : left.Rests after) :
      AssignmentEnds engine keys value depth (some scene.proxy) world (.error halt, after)
  | through {depth : Nat} {world ready between left after : World} {scene : Scene} {name : String}
      {slot : Slot} {answer : Script.Value} {result : Except (Halt ScriptError) Unit}
      (glances : world.Glances ready) (current : scene.IsCurrent ready)
      (passage : scene.passage? name = some slot)
      (answers : (readPassage (Script.startWithin depth) engine scene slot).outcome ready =
        (.ok answer, between))
      (goesOn : AssignmentEnds engine keys value (depth - 1) (assignee? between.store answer)
        between (result, left))
      (rests : left.Rests after) :
      AssignmentEnds engine keys value depth (some scene.proxy) world (result, after)
  | asked {depth : Nat} {proxy object : CellId} {world ready left after : World} {name : String}
      {result : Except (Halt ScriptError) Unit} (keyless : keys = [])
      (capable : world.dynamicBehind? proxy = some object) (glances : world.Glances ready)
      (ran : (setMember (Script.startWithin depth) engine proxy name value).outcome ready =
        (result, left))
      (rests : left.Rests after) :
      AssignmentEnds engine keys value depth (some proxy) world (result, after)

instance (engine : EngineId) (keys : List Script.Value) (value : Script.Value) (depth : Nat)
    (callee : Option CellId) : Endings (AssignmentEnds engine keys value depth callee) where
  refused rests := .refused rests
  earlier first passes := by
    cases passes with
    | refused rests => exact .refused (first.rests.trans rests)
    | ends ends => exact .ends (Endings.earlier first ends)
    | lost glances current passage fails rests =>
      exact .lost (RunRelation.trans first glances) current passage fails rests
    | through glances current passage answers goesOn rests =>
      exact .through (RunRelation.trans first glances) current passage answers goesOn rests
    | asked keyless capable glances ran rests =>
      exact .asked keyless (first.dynamicBehind?.symm.trans capable)
        (RunRelation.trans first glances) ran rests
  later passes last := by
    cases passes with
    | refused rests => exact .refused (rests.trans last)
    | ends ends => exact .ends (Endings.later ends last)
    | lost glances current passage fails rests =>
      exact .lost glances current passage fails (rests.trans last)
    | through glances current passage answers goesOn rests =>
      exact .through glances current passage answers goesOn (rests.trans last)
    | asked keyless capable glances ran rests =>
      exact .asked keyless capable glances ran (rests.trans last)

/-- Assigning through a value passes on through the proxy that it is for. -/
def AssignsThrough (engine : EngineId) (keys : List Script.Value) (value : Script.Value)
    (depth : Nat) (assign : Script.Value → ScriptRun Unit) : Prop :=
  ∀ callee world, AssignmentEnds engine keys value depth (assignee? world.store callee) world
    ((assign callee).outcome world)

/-- An assignment that goes through a passage goes on with what that answers. -/
theorem passage_passes (current : scene.IsCurrent world) (passage : scene.passage? name = some slot)
    (goesOn : AssignsThrough engine keys value (depth - 1)
      ((Script.startWithin depth).assignThrough engine · keys value)) :
    AssignmentEnds engine keys value depth (some scene.proxy) world ((do
      let answer ← held (readPassage (Script.startWithin depth) engine scene slot)
      (Script.startWithin depth).assignThrough engine answer keys value).outcome world) := by
  rcases ran : (readPassage (Script.startWithin depth) engine scene slot).outcome world with
    ⟨halt | answer, between⟩
  · rw [outcome_bind_of_error (outcome_held_of_error ran)]
    exact .lost (RunRelation.refl world) current passage ran (RunRelation.refl between)
  · rw [outcome_bind_of_ok (outcome_held_eq_ok.mpr ⟨between, ran, rfl⟩)]
    have holds : between.Glances (between.holding (HoldsCells.cells answer)) :=
      RunRelation.held between _
    exact .through (RunRelation.refl world) current passage ran
      (Endings.earlier holds (goesOn answer (between.holding _))) (RunRelation.refl _)

/-- Without keys a name is written, unless a capability is to be asked. -/
theorem setMember_passes (keyless : keys = []) (name : String) (world : World) :
    AssignmentEnds engine keys value depth (some proxy) world
      ((setMember (Script.startWithin depth) engine proxy name value).outcome world) := by
  cases behind : world.dynamicBehind? proxy with
  | none => exact .ends (setMember_ends _ engine name value behind)
  | some object =>
    exact .asked keyless behind (RunRelation.refl world) rfl (RunRelation.refl _)

/-- A field or a property is written if there are no keys, and gone through if there are. -/
theorem assignData_passes {rest : List Slot} (current : scene.IsCurrent world)
    (visible : (scene.lookup name).visible = slot :: rest) (data : slot.declaration.isData = true)
    (goesOn : AssignsThrough engine keys value (depth - 1)
      ((Script.startWithin depth).assignThrough engine · keys value)) :
    AssignmentEnds engine keys value depth (some scene.proxy) world ((do
      if keys.isEmpty then setMember (Script.startWithin depth) engine scene.proxy name value
      else
        let inner ← held (readSlot (Script.startWithin depth) engine scene slot)
        (Script.startWithin depth).assignThrough engine inner keys value).outcome world) := by
  split
  · next keyless => exact setMember_passes (List.isEmpty_iff.mp keyless) name world
  · have passage : scene.passage? name = some slot := by
      unfold Scene.passage?
      rw [visible]
      exact if_pos data
    have reads : readPassage (Script.startWithin depth) engine scene slot =
        readSlot (Script.startWithin depth) engine scene slot := by
      unfold readPassage
      rw [(isKind_method_of_isData data).1]
      rfl
    rw [← reads]
    exact passage_passes current passage goesOn

/-- What is shown under a name is gone through, written or refused. -/
theorem assignFound_passes (current : scene.IsCurrent world) (name : String)
    (goesOn : AssignsThrough engine keys value (depth - 1)
      ((Script.startWithin depth).assignThrough engine · keys value)) :
    AssignmentEnds engine keys value depth (some scene.proxy) world
      ((assignFound (Script.startWithin depth) engine scene.proxy scene name keys value).outcome
        world) := by
  -- a name of methods has no slot to write: the assignment goes through a getter or ends
  by_cases method : scene.namesMethods name
  · cases found : scene.getter? name with
    | none =>
      rw [outcome_assignFound_of_none method found]
      exact .refused (RunRelation.refl world)
    | some getter =>
      have passage : scene.passage? name = some getter :=
        (passage?_of_namesMethods method).trans found
      have exceeds : (Application.assign keys value).exceeds scene name getter = true := by
        unfold Application.exceeds
        rw [isKind_of_getter? found]
        rfl
      rw [outcome_assignFound_of_passage passage exceeds]
      exact passage_passes current passage goesOn
  · unfold assignFound
    dsimp only
    split
    · exact Endings.raise _ world
    · next first rest visible =>
      split
      · exact .ends (writeIndexer_ends current)
      · next kind =>
        exact assignData_passes current visible (by unfold Member.isData; rw [kind]; rfl) goesOn
      · next kind =>
        exact assignData_passes current visible (by unfold Member.isData; rw [kind]; rfl) goesOn
      · next kind => exact absurd ⟨first, rest, visible, kind⟩ method
      · exact Endings.raise _ world

/-- An array has no capability to ask. -/
theorem dynamicBehind?_of_array {array : CellId} {after : World}
    (stands : (subjectOf proxy).outcome world = (.ok (.plain (.array array)), after)) :
    after.dynamicBehind? proxy = none := by
  rw [outcome_subjectOf] at stands
  cases leads : world.targetOf proxy with
  | error error =>
    rw [leads] at stands
    cases stands
  | ok target =>
    rw [leads] at stands
    obtain ⟨shown, rfl⟩ := Prod.ext_iff.mp stands
    obtain rfl := eq_of_subjectIn_plain (Except.ok.inj shown)
    have plain : dynamicIn? world.store proxy (.array array) = none := by
      unfold dynamicIn?
      cases world.store.proxy? proxy <;> rfl
    have behind : world.dynamicBehind? proxy = none := by
      unfold World.dynamicBehind?
      rw [leads]
      exact plain
    exact behind

theorem assignMember_passes (goesOn : AssignsThrough engine keys value (depth - 1)
      ((Script.startWithin depth).assignThrough engine · keys value)) (proxy : CellId)
    (name : String) (world : World) :
    AssignmentEnds engine keys value depth (some proxy) world
      ((assignMember (Script.startWithin depth) engine proxy name keys value).outcome world) := by
  unfold assignMember
  refine Endings.inScope _ fun held _ => ?_
  refine Endings.bind (look_glances engine proxy) fun scene ready _ looked => ?_
  obtain ⟨current, rfl⟩ := outcome_look_eq_ok looked
  exact assignFound_passes current name goesOn

theorem assignProxy_passes (goesOn : AssignsThrough engine keys value (depth - 1)
      ((Script.startWithin depth).assignThrough engine · keys value)) (proxy : CellId)
    (world : World) :
    AssignmentEnds engine keys value depth (some proxy) world
      ((assignProxy (Script.startWithin depth) engine proxy keys value).outcome world) := by
  unfold assignProxy
  refine Endings.inScope _ fun held _ => ?_
  refine Endings.bind (subjectOf_leaves proxy) fun subject ready _ stands => ?_
  split
  · next array => exact .ends (setIndex_ends _ engine keys value (dynamicBehind?_of_array stands))
  · refine Endings.bind (defaultMember?_leaves engine proxy _) fun found further _ _ => ?_
    split
    · exact assignMember_passes goesOn proxy _ further
    · exact Endings.bind (.typeText _) fun _ last _ _ => Endings.raise _ last
  · exact Endings.raise _ ready

theorem assignThrough_passes (goesOn : AssignsThrough engine keys value (depth - 1)
      ((Script.startWithin depth).assignThrough engine · keys value)) :
    AssignsThrough engine keys value depth
      (assignThrough (Script.startWithin depth) engine · keys value) := by
  intro callee world
  dsimp only
  have refuse (callee : Script.Value) (assignee : Option CellId) (start : World) :
      AssignmentEnds engine keys value depth assignee start
        ((do raise (.notSupported s!"cannot assign through {← describe callee}") :
          ScriptRun Unit).outcome start) :=
    Endings.bind (.describe _) fun _ last _ _ => Endings.raise _ last
  unfold assignThrough
  refine Endings.inScope _ fun held glances => ?_
  dsimp only
  split
  · next proxy => exact assignProxy_passes goesOn proxy held
  · next cell =>
    rw [outcome_bind_of_ok (outcome_readStore _ _), glances.store]
    unfold assignee?
    dsimp only
    split
    · exact assignMember_passes goesOn _ _ held
    · exact refuse _ none held
  · exact refuse _ _ held

/-- Assigning through values passes on at every depth. -/
theorem startWithin_assignsThrough (engine : EngineId) (keys : List Script.Value)
    (value : Script.Value) (depth : Nat) :
    AssignsThrough engine keys value (depth - 1)
      ((Script.startWithin depth).assignThrough engine · keys value) := by
  -- what a getter answers is assigned to one level further down
  induction depth with
  | zero =>
    intro callee world
    exact .refused (RunRelation.refl world)
  | succ depth inductionHypothesis => exact assignThrough_passes inductionHypothesis

end Binding

/-- A write on a proxy that has no capability to ask is refused, and then it has changed nothing; or
one receiver behind the proxy, the setter of a member, an element, a box or a field of a struct,
receives the value once, converted to the type declared for it, and the write ends as that does.
This holds of names and keys. An assignment through calls ends in the same way, or goes through
members that answer without keys to what they answer with: these may have done what they do, and
one that fails ends the assignment. -/
theorem writes_have_one_receiver_or_none (depth : Nat) (engine : EngineId) {world : World}
    {proxy : CellId} (plain : world.dynamicBehind? proxy = none) (value : Script.Value) :
    (∀ name, WriteEnds (Script.startWithin depth) engine proxy value world
      ((setMember (Script.startWithin depth) engine proxy name value).outcome world)) ∧
    (∀ keys, WriteEnds (Script.startWithin depth) engine proxy value world
      ((setIndex (Script.startWithin depth) engine proxy keys value).outcome world)) ∧
    (∀ keys, AssignmentEnds engine keys value depth (some proxy) world
      ((assignProxy (Script.startWithin depth) engine proxy keys value).outcome world)) ∧
    ∀ name keys, AssignmentEnds engine keys value depth (some proxy) world
      ((assignMember (Script.startWithin depth) engine proxy name keys value).outcome world) := by
  refine ⟨fun name => ?_, fun keys => ?_, fun keys => ?_, fun name keys => ?_⟩
  · exact setMember_ends _ engine name value plain
  · exact setIndex_ends _ engine keys value plain
  · exact assignProxy_passes (startWithin_assignsThrough engine keys value depth) proxy world
  · exact assignMember_passes (startWithin_assignsThrough engine keys value depth) proxy name world

/-! ### A getter that writes -/

/-- A number that is answered once the lamps have been lit by a script. -/
def Host.Member.brightness : Member where
  declaring := 0
  declaringAccess := none
  name := "Brightness"
  kind := .property
  isStatic := false
  isPrivate := false
  parameters := []
  type := .numeric .int32
  access := none
  rename := none
  implementation := .accessor (some (.code none [
    .perform (.evaluate (some "main") (.literal (.constant (.string "light")))),
    .answer (.literal (.constant (.integer (.wrap32 5))))])) none

/-- A room tells how bright it is. -/
def Host.HostType.room : HostType where
  name := "Room"
  kind := .reference
  members := [.brightness]

namespace World

/-- Script runs with a room in hand and two lamps, which are boxes. -/
def withRoom : World where
  store := {
    types := ⟨#[.room]⟩
    cells := #[some (.object { type := 0 }),
      some (.proxy ⟨0, .reference (.object 0), none, .none⟩),
      some (.box .bool (.bool false)), some (.box .bool (.bool false)),
      some (.proxy ⟨0, .reference (.box 2), none, .none⟩),
      some (.proxy ⟨0, .reference (.box 3), none, .none⟩)] }
  engines := #[{ Engine.new "main" {} none with
    globals := [("left", .proxy 4), ("right", .proxy 5)]
    session := { frames := (default : FrameStack).push .script, state := .running } }]
  scripts := [("light", .sequence [
    .set (.global "left") "value" (.bool true), .set (.global "right") "value" (.bool true)])]
  objects := [("room", .object 0), ("left", .box 2), ("right", .box 3)]
  held := [1, 0, 2, 3]

/-- Is the lamp lit? -/
def isLit (world : World) (lamp : CellId) : Bool :=
  match world.store.boxValue lamp with
  | .bool lit => lit
  | _ => false

end World

/-- Assigning at a key through the brightness of a room goes on with a number and is refused. Both
lamps have been lit by then. -/
theorem refused_assignment_lights_lamps :
    let ended := ((Operation.setInvokeMember 1 "Brightness" [.int 1] (.int 2)).run
      (Script.startWithin 4) 0).outcome .withRoom
    World.withRoom.dynamicBehind? 1 = none ∧ errorName? ended.1 = some "NotSupported" ∧
      ∀ lamp ∈ [2, 3], World.withRoom.isLit lamp = false ∧ ended.2.isLit lamp = true := by
  refine ⟨rfl, ?_, ?_⟩
  · decide +kernel
  · decide +kernel

/-- One of the lamps is lit. -/
theorem writes_have_one_receiver_or_none_of_lamp :
    let ended := (setMember (Script.startWithin 1) 0 4 "value" (.bool true)).outcome .withRoom
    World.withRoom.dynamicBehind? 4 = none ∧
      WriteEnds (Script.startWithin 1) 0 4 (.bool true) .withRoom ended ∧
        ended.2.isLit 2 = true ∧ ended.2.isLit 3 = false := by
  have plain : World.withRoom.dynamicBehind? 4 = none := rfl
  have ends := (writes_have_one_receiver_or_none 1 0 plain (.bool true)).1 "value"
  exact ⟨plain, ends, rfl, rfl⟩

end ScriptBridge
