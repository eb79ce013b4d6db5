/-
This file compares calls of a name with assignments through calls of it, where the name
is that of methods. A call goes through a method without parameters only if no overload
of the name, hidden ones included, takes as many arguments as are given; otherwise it
comes to an overload that takes them or fails. An assignment asks for nothing of the
kind: it goes through such a method whenever script sees one.
-/

import ScriptBridge.Proofs.ParameterFilling
import ScriptBridge.Proofs.Resting
import ScriptBridge.Proofs.Tunnelling

namespace ScriptBridge

open Host Run Bridge Binding

namespace Binding

/-! ### Methods that answer without arguments -/

/-- What script sees first under the name is a method. -/
def Scene.namesMethods (scene : Scene) (name : String) : Prop :=
  ∃ first rest, (scene.lookup name).visible = first :: rest ∧ first.declaration.kind = .method

/-- The method of the name that can be read by calling it. -/
def Scene.getter? (scene : Scene) (name : String) : Option Slot :=
  ((scene.lookup name).ofKind .method).find? Slot.isGetter

/-- Looks at a proxy, calls a method of it without arguments and goes on with the answer, while
cells are in use. -/
def goThrough {Result : Type} (calls : Calls) (engine : EngineId) (proxy : CellId)
    (cells : List CellId) (getter : Slot) (next : Script.Value → ScriptRun Result) :
    ScriptRun Result :=
  keeping cells do
    let scene ← look engine proxy
    next (← held (invokeSlot calls engine scene getter {} []))

variable {calls : Calls} {engine : EngineId} {world : World} {proxy : CellId} {name : String}
  {scene : Scene} {getter : Slot} {arguments : List Script.Value}

theorem passage?_of_namesMethods (method : scene.namesMethods name) :
    scene.passage? name = scene.getter? name := by
  obtain ⟨first, rest, visible, kind⟩ := method
  unfold Scene.passage?
  rw [visible]
  dsimp only
  unfold Member.isData Slot.isKind
  rw [kind]
  rfl

theorem isKind_of_getter? (found : scene.getter? name = some getter) :
    getter.isKind .method = true :=
  (List.mem_filter.mp (List.mem_of_find?_eq_some found)).2

/-- A method that can be read without arguments takes none. -/
theorem not_isGetter_of_accepts {slot : Slot} (given : arguments ≠ [])
    (accepts : slot.implementation.acceptsCount arguments.length = true) :
    slot.isGetter = false := by
  unfold Slot.isGetter
  cases parameters : slot.implementation.parameters with
  | cons => rfl
  | nil =>
    unfold Member.acceptsCount at accepts
    rw [parameters] at accepts
    have few : arguments.length ≤ 0 := of_decide_eq_true ((Bool.and_eq_true _ _).mp accepts).2
    exact absurd (List.eq_nil_of_length_eq_zero (Nat.le_zero.mp few)) given

/-! ### Names of methods -/

/-- An assignment goes through the method whenever there is one. -/
theorem outcome_assignFound_of_getter {keys : List Script.Value} {value : Script.Value}
    (method : scene.namesMethods name) (found : scene.getter? name = some getter) :
    (assignFound calls engine proxy scene name keys value).outcome world = (do
      let answer ← held (invokeSlot calls engine scene getter {} [])
      calls.assignThrough engine answer keys value).outcome world := by
  have exceeds : (Application.assign keys value).exceeds scene name getter = true := by
    unfold Application.exceeds
    rw [isKind_of_getter? found]
    rfl
  rw [outcome_assignFound_of_passage ((passage?_of_namesMethods method).trans found) exceeds]
  unfold readPassage
  rw [if_pos (isKind_of_getter? found)]

theorem outcome_assignFound_of_none {keys : List Script.Value} {value : Script.Value}
    (method : scene.namesMethods name) (none : scene.getter? name = none) :
    (assignFound calls engine proxy scene name keys value).outcome world =
      (.error (.raised (.notSupported s!"cannot assign to method '{name}'")), world) := by
  obtain ⟨first, rest, visible, kind⟩ := method
  unfold Scene.getter? at none
  unfold assignFound
  dsimp only
  rw [visible]
  dsimp only
  rw [kind]
  dsimp only
  rw [none]
  rfl

/-- A call goes through the method where no overload takes the arguments. -/
theorem outcome_invokeFound_of_getter (method : scene.namesMethods name)
    (found : scene.getter? name = some getter)
    (missed : missesCount scene.slots name arguments.length = true) :
    (invokeFound calls engine scene name arguments).outcome world = (do
      let answer ← held (invokeSlot calls engine scene getter {} [])
      calls.callValue engine answer arguments).outcome world := by
  have exceeds : (Application.call arguments).exceeds scene name getter = true := by
    unfold Application.exceeds
    dsimp only
    rw [if_pos (isKind_of_getter? found)]
    exact missed
  rw [outcome_invokeFound_of_passage ((passage?_of_namesMethods method).trans found) exceeds]
  unfold readPassage
  rw [if_pos (isKind_of_getter? found)]

/-- An overload is chosen that takes so many arguments, or the choice fails and changes nothing. -/
theorem outcome_resolve_cases (engine : EngineId) (name : String) (candidates : List Slot)
    (declared : Nat) (arguments : List Script.Value) (world : World) :
    (∃ error, (resolve engine name candidates declared arguments).outcome world =
        (.error (.raised error), world)) ∨
      ∃ slot prepared ready, slot ∈ candidates ∧
        slot.implementation.acceptsCount arguments.length = true ∧ Grows world ready ∧
          (resolve engine name candidates declared arguments).outcome world =
            (.ok (slot, prepared), ready) := by
  have grows := resolve_grows engine name candidates declared arguments world
  cases chosen : choose name declared (candidates.map (attempt engine arguments world)) with
  | error error =>
    refine .inl ⟨error, ?_⟩
    show resolve engine name candidates declared arguments world = _
    unfold resolve
    rw [chosen]
  | ok best =>
    have resolved : (resolve engine name candidates declared arguments).outcome world =
        (.ok (best.slot, best.prepared), best.world) := by
      show resolve engine name candidates declared arguments world = _
      unfold resolve
      rw [chosen]
    rw [resolved] at grows
    obtain ⟨left, right, split, prepares, -⟩ := resolve_ok_iff.mp resolved
    refine .inr ⟨_, _, _, ?_, (prepare_eq_ok prepares).1, grows, resolved⟩
    rw [split]
    exact List.mem_append_right left List.mem_cons_self

/-- Otherwise it fails, or comes to an overload that takes them. -/
theorem outcome_invokeFound_of_overload (calls : Calls) (engine : EngineId)
    (method : scene.namesMethods name) (given : arguments ≠ [])
    (stays : missesCount scene.slots name arguments.length = false ∨ scene.getter? name = none)
    (world : World) :
    (∃ error, (invokeFound calls engine scene name arguments).outcome world =
        (.error (.raised error), world)) ∨
      ∃ slot prepared ready, slot ∈ (scene.lookup name).ofKind .method ∧ slot.isGetter = false ∧
        slot.implementation.acceptsCount arguments.length = true ∧ world.Rests ready ∧
          (invokeFound calls engine scene name arguments).outcome world =
            (invokeSlot calls engine scene slot prepared arguments).outcome ready := by
  obtain ⟨first, rest, visible, kind⟩ := method
  have called : invokeFound calls engine scene name arguments =
      invokeMethod calls engine scene name arguments := by
    unfold invokeFound
    rw [visible]
    dsimp only
    rw [kind]
  rw [called]
  unfold invokeMethod
  dsimp only
  rcases outcome_resolve_cases engine name ((scene.lookup name).ofKind .method)
      (scene.lookup name).declared arguments world with
    ⟨error, refused⟩ | ⟨slot, prepared, ready, member, accepts, grows, resolved⟩
  · refine .inl ⟨error, ?_⟩
    rw [outcome_bind_of_ok (outcome_settle_eq_error.mpr refused)]
    dsimp only
    rcases stays with taken | missing
    · rw [taken]
      split
      · next impossible => cases impossible
      · rfl
    · rw [show ((scene.lookup name).ofKind .method).find? Slot.isGetter = none from missing]
      rfl
  · refine .inr ⟨slot, prepared, ready, member, not_isGetter_of_accepts given accepts, accepts,
      grows.rests, ?_⟩
    rw [outcome_bind_of_ok (outcome_settle_eq_ok.mpr resolved)]

end Binding

/-! ### Calls and assignments -/

/-- A look shows what the proxy offers, and changes nothing. -/
theorem look_shows {world : World} {proxy : CellId} {target : Value}
    (leads : world.targetOf proxy = .ok target) (engine : EngineId) (cells : List CellId) :
    ∃ looked, world.Rests looked ∧ (look engine proxy).outcome (world.holding cells) =
      (.ok (sceneIn world engine proxy (subjectIn world.store target)), looked) := by
  have leads : (world.holding cells).targetOf proxy = .ok target := leads
  refine ⟨_, ?_, by rw [outcome_look, leads]; rfl⟩
  exact ⟨.of_same rfl rfl, rfl, [_], rfl⟩

/-- Where a name is that of methods, an assignment through a call of it with keys goes through a
method that can be read without arguments whenever script sees one, and fails without one. A call
with the same arguments goes through it only if no overload of the name, hidden ones included, takes
so many; otherwise the call fails, or comes to an overload that takes them, which is never such a
method. -/
theorem assignments_go_through_every_getter (calls : Calls) (engine : EngineId) {world : World}
    {proxy : CellId} {target : Value} {name : String} {given : List Script.Value}
    (leads : world.targetOf proxy = .ok target)
    (method : (sceneIn world engine proxy (subjectIn world.store target)).namesMethods name)
    (some_given : given ≠ []) (value : Script.Value) :
    let scene := sceneIn world engine proxy (subjectIn world.store target)
    let argumentCells := proxy :: given.flatMap Script.Value.cells
    let keyCells := proxy :: value.cells ++ given.flatMap Script.Value.cells
    (∀ getter, scene.getter? name = some getter →
      (assignMember calls engine proxy name given value).outcome world =
          (goThrough calls engine proxy keyCells getter
            (calls.assignThrough engine · given value)).outcome world ∧
        (missesCount scene.slots name given.length = true →
          (invokeMember calls engine proxy name given).outcome world =
            (goThrough calls engine proxy argumentCells getter
              (calls.callValue engine · given)).outcome world)) ∧
    (scene.getter? name = none → ∃ after, world.Rests after ∧
      (assignMember calls engine proxy name given value).outcome world =
        (.error (.raised (.notSupported s!"cannot assign to method '{name}'")), after)) ∧
    (missesCount scene.slots name given.length = false ∨ scene.getter? name = none →
      (∃ error after, world.Rests after ∧
        (invokeMember calls engine proxy name given).outcome world =
          (.error (.raised error), after)) ∨
      ∃ slot prepared ready, slot ∈ (scene.lookup name).ofKind .method ∧ slot.isGetter = false ∧
        slot.implementation.acceptsCount given.length = true ∧ world.Rests ready ∧
          (invokeMember calls engine proxy name given).outcome world =
            world.endScope ((invokeSlot calls engine scene slot prepared given).outcome ready)) := by
  intro scene argumentCells keyCells
  obtain ⟨toAssign, assigned, assigning⟩ := look_shows leads engine keyCells
  obtain ⟨toCall, rests, calling⟩ := look_shows leads engine argumentCells
  refine ⟨fun getter found => ⟨?_, fun missed => ?_⟩, fun missing => ?_, fun stays => ?_⟩
  · show (keeping keyCells (do
        assignFound calls engine proxy (← look engine proxy) name given value)).outcome world = _
    refine outcome_keeping_of_eq ?_
    rw [outcome_bind_of_ok assigning, outcome_bind_of_ok assigning]
    exact outcome_assignFound_of_getter method found
  · show (keeping argumentCells (do
        invokeFound calls engine (← look engine proxy) name given)).outcome world = _
    refine outcome_keeping_of_eq ?_
    rw [outcome_bind_of_ok calling, outcome_bind_of_ok calling]
    exact outcome_invokeFound_of_getter method found missed
  · refine ⟨_, (RunRelation.trans assigned (RunRelation.held _ world.held) : world.Rests _), ?_⟩
    unfold assignMember
    rw [outcome_scope, outcome_bind_of_ok (outcome_holdCells _ _), outcome_bind_of_ok assigning,
      outcome_assignFound_of_none method missing]
  · have entered : (invokeMember calls engine proxy name given).outcome world =
        world.endScope ((invokeFound calls engine scene name given).outcome toCall) := by
      unfold invokeMember
      rw [outcome_scope, outcome_bind_of_ok (outcome_holdCells _ _), outcome_bind_of_ok calling]
      rfl
    rw [entered]
    rcases outcome_invokeFound_of_overload calls engine method some_given stays toCall with
      ⟨error, refused⟩ | ⟨slot, prepared, ready, member, unread, accepts, prepares, called⟩
    · refine .inl ⟨error, _, (RunRelation.trans rests (RunRelation.held _ world.held)), ?_⟩
      rw [refused]
      rfl
    · exact .inr ⟨slot, prepared, ready, member, unread, accepts, rests.trans prepares,
        congrArg world.endScope called⟩

/-! ### A method beside a hidden overload -/

/-- A method that finds something, with or without a number to find it by. -/
def Host.Member.find (label : String) (access : Option Access) (parameters : List Parameter) :
    Member where
  declaring := 0
  declaringAccess := none
  name := "Find"
  kind := .method
  isStatic := false
  isPrivate := false
  parameters := parameters
  type := .bool
  access := access
  rename := none
  implementation := .invoke (.code (some label) [.answer (.literal (.constant (.bool true)))])

/-- Script sees the method without a parameter only. -/
def Host.HostType.desk : HostType where
  name := "Desk"
  kind := .reference
  members := [.find "Find()" none [],
    .find "Find(Int32)" (some .hidden) [{ name := "number", type := .numeric .int32 }]]

namespace World

/-- Script runs with a desk in hand. -/
def withDesk : World where
  store := {
    types := ⟨#[.desk]⟩
    cells := #[some (.object { type := 0 }),
      some (.proxy ⟨0, .reference (.object 0), none, .none⟩)] }
  engines := #[{ Engine.new "main" {} none with
    session := { frames := (default : FrameStack).push .script, state := .running } }]
  objects := [("desk", .object 0)]
  held := [1, 0]

/-- What script sees through the proxy of the desk. -/
def deskScene : Scene := sceneIn withDesk 0 1 (.member (.object 0) 0)

theorem deskScene_slots : deskScene.slots = [.plain (.find "Find()" none []),
    .plain (.find "Find(Int32)" (some .hidden) [{ name := "number", type := .numeric .int32 }])] := by
  have chain : withDesk.store.types.chain 0 = [0] := by
    rw [TypeTable.chain]
    rfl
  show collectSlots _ (withDesk.store.types.chain 0) _ = _
  rw [chain]
  rfl

theorem deskScene_visible : (deskScene.lookup "Find").visible = [.plain (.find "Find()" none [])] := by
  unfold Scene.lookup
  dsimp only
  rw [deskScene_slots]
  rfl

end World

theorem deskScene_namesMethods : World.deskScene.namesMethods "Find" :=
  ⟨_, _, World.deskScene_visible, rfl⟩

theorem deskScene_getter? :
    World.deskScene.getter? "Find" = some (.plain (.find "Find()" none [])) := by
  unfold Scene.getter? Lookup.ofKind
  rw [World.deskScene_visible]
  rfl

theorem missesCount_deskScene :
    missesCount World.deskScene.slots "Find" [Script.Value.int 1].length = false := by
  rw [World.deskScene_slots]
  rfl

theorem withDesk_assignment :
    (assignMember (Script.startWithin 1) 0 1 "Find" [.int 1] (.bool true)).outcome .withDesk =
      (goThrough (Script.startWithin 1) 0 1 [1] (.plain (.find "Find()" none []))
        ((Script.startWithin 1).assignThrough 0 · [.int 1] (.bool true))).outcome .withDesk := by
  show (keeping [1] (do
    assignFound (Script.startWithin 1) 0 1 (← look 0 1) "Find" [.int 1] (.bool true))).outcome
      .withDesk = _
  have looked : (look 0 1).outcome (World.withDesk.holding [1]) = (.ok World.deskScene, _) := rfl
  refine outcome_keeping_of_eq ?_
  rw [outcome_bind_of_ok looked, outcome_bind_of_ok looked]
  exact outcome_assignFound_of_getter deskScene_namesMethods deskScene_getter?

/-- The overload that takes a number is hidden. Calling the name with a number runs nothing and
fails; assigning through the call runs the method without parameters. -/
theorem assignment_runs_getter_beside_overload :
    missesCount World.deskScene.slots "Find" [Script.Value.int 1].length = false ∧
      ((invokeMember (Script.startWithin 1) 0 1 "Find" [.int 1]).outcome .withDesk).2.log = #[] ∧
        ((assignMember (Script.startWithin 1) 0 1 "Find" [.int 1] (.bool true)).outcome
          .withDesk).2.log = #[.call "Find()" [] none] := by
  refine ⟨missesCount_deskScene, ?_, ?_⟩
  · have leads : World.withDesk.targetOf 1 = .ok (.object 0) := rfl
    obtain ⟨looked, rests, shows⟩ :=
      look_shows leads 0 (1 :: [Script.Value.int 1].flatMap Script.Value.cells)
    unfold invokeMember
    rw [outcome_scope, outcome_bind_of_ok (outcome_holdCells _ _), outcome_bind_of_ok shows]
    show ((invokeFound (Script.startWithin 1) 0 World.deskScene "Find" [.int 1]).outcome
      looked).2.log = #[]
    rcases outcome_invokeFound_of_overload (Script.startWithin 1) 0 deskScene_namesMethods
        (List.cons_ne_nil (Script.Value.int 1) []) (.inl missesCount_deskScene) looked with
      ⟨error, refused⟩ | ⟨slot, _, _, member, unread, -⟩
    · rw [refused]
      exact rests.log
    · unfold Lookup.ofKind at member
      rw [World.deskScene_visible] at member
      cases List.mem_singleton.mp (List.mem_filter.mp member).1
      cases unread
  · rw [withDesk_assignment]
    rfl

/-- With a desk in hand. -/
theorem assignments_go_through_every_getter_of_desk :
    World.withDesk.targetOf 1 = .ok (.object 0) ∧ World.deskScene.namesMethods "Find" ∧
      [Script.Value.int 1] ≠ [] ∧
        (assignMember (Script.startWithin 1) 0 1 "Find" [.int 1] (.bool true)).outcome .withDesk =
          (goThrough (Script.startWithin 1) 0 1 [1] (.plain (.find "Find()" none []))
            ((Script.startWithin 1).assignThrough 0 · [.int 1] (.bool true))).outcome .withDesk := by
  have leads : World.withDesk.targetOf 1 = .ok (.object 0) := rfl
  have given : [Script.Value.int 1] ≠ [] := List.cons_ne_nil _ _
  have through := assignments_go_through_every_getter (Script.startWithin 1) 0 leads
    deskScene_namesMethods given (.bool true)
  exact ⟨leads, deskScene_namesMethods, given, (through.1 _ deskScene_getter?).1⟩

end ScriptBridge
