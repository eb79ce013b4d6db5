/-
This file follows what the engine does around host code: it converts and marshals values,
enters and leaves frames and sweeps. All of this rests: no cell that was there comes to
hold anything else, nothing is logged, and the history tells of looks at most. So host
code called in a frame runs from the store as it was, if it runs at all, and what it
leaves stays as it left it.
-/

import ScriptBridge.Proofs.MemberSteps
import ScriptBridge.Proofs.SessionFrames
import ScriptBridge.Proofs.Waning
import ScriptBridge.Script.Module

namespace ScriptBridge

open Host Run Bridge Binding

/-! ### Rest -/

/-- No cell that was there holds anything else, nothing is logged, and members are looked up at
most. -/
structure World.Rests (before after : World) : Prop where
  wanes : before.Wanes after
  log : after.log = before.log
  looks : ∃ scenes : List Scene,
    after.history = scenes.map MemberEvent.looked ++ before.history

namespace World

theorem Rests.of_wanes {before after : World} (wanes : before.Wanes after)
    (log : after.log = before.log) (history : after.history = before.history) :
    before.Rests after :=
  ⟨wanes, log, [], history⟩

theorem Rests.trans {first second third : World} (left : first.Rests second)
    (right : second.Rests third) : first.Rests third where
  wanes := RunRelation.trans left.wanes right.wanes
  log := right.log.trans left.log
  looks := by
    obtain ⟨earlier, first⟩ := left.looks
    obtain ⟨later, second⟩ := right.looks
    refine ⟨later ++ earlier, ?_⟩
    rw [second, first, List.map_append, List.append_assoc]

end World

instance : RunRelation World.Rests where
  refl world := .of_wanes (RunRelation.refl world) rfl rfl
  trans := .trans
  held world held := .of_wanes (RunRelation.held world held) rfl rfl

theorem Grows.rests {before after : World} (grows : Grows before after) : before.Rests after := by
  refine .of_wanes grows.wanes ?_ grows.changes.history
  induction grows with
  | refl => rfl
  | tail _ last inductionHypothesis =>
    cases last with
    | held => exact inductionHypothesis
    | create => exact inductionHypothesis

theorem World.Burials.rests {before after : World} (burials : Burials before after) :
    before.Rests after :=
  .of_wanes burials.wanes burials.keepsSessions.log burials.keeps.history

instance : SweepRelation World.Rests where
  reap world := (World.reap_spec world).1.rests
  modifyEngine world _ _ policy :=
    .of_wanes ⟨.refl world.store, World.part_modifyEngine policy⟩ rfl rfl

namespace Run

variable {Failure Result : Type}

theorem create_rests (contents : Cell) :
    Leaves World.Rests (create contents : Run Failure CellId) := by
  refine fun world => .of_wanes ⟨⟨rfl, ?_, ?_⟩, fun _ => rfl⟩ rfl rfl
  · exact Nat.le_trans (Nat.le_succ _) (Nat.le_of_eq (Store.size_create world.store contents).symm)
  · intro cell kept inside found
    exact (Store.get?_create_of_lt inside).symm.trans found

end Run

namespace Bridge

variable {Failure Result : Type}

/-! ### Frames -/

/-- The outcome of host code as the engine sees it that called it, in the world that the code left. -/
def seenIn {Result : Type} (change : World → HostError → ScriptError) (left : World) :
    Except (Halt HostError) Result → Except (Halt ScriptError) Result
  | .ok result => .ok result
  | .error (.raised error) => .error (.raised (change left error))
  | .error .exhausted => .error .exhausted

theorem seenIn_error {Result : Type} (change : World → HostError → ScriptError) (left : World)
    (halt : Halt HostError) :
    ∃ seen, (seenIn change left (.error halt) : Except (Halt ScriptError) Result) = .error seen := by
  cases halt <;> exact ⟨_, rfl⟩

/-- How host code comes out of the frame it is called in: the frame was refused, or the code ran from
the store as it was and the frame ends as it did. -/
inductive Framed {Result : Type} (change : World → HostError → ScriptError) (body : HostRun Result)
    (world : World) : Except (Halt ScriptError) Result × World → Prop
  | refused {error : ScriptError} {after : World} (rests : world.Rests after)
      (changes : Changes world after) : Framed change body world (.error (.raised error), after)
  | ended {start left after : World} {result : Except (Halt HostError) Result}
      (enters : world.Rests start) (opens : Changes world start)
      (store : start.store = world.store) (ran : body.outcome start = (result, left))
      (rests : left.Rests after) (closes : Changes left after) :
      Framed change body world (seenIn change left result, after)

theorem withSession_rests (world : World) (engine : EngineId) (session : Session) :
    world.Rests (world.withSession engine session) :=
  SweepRelation.modifyEngine world engine fun _ => rfl

variable [HoldsCells Result]

/-- Leaving a frame keeps to what does not change around host code. -/
theorem frame_left_rests {engine : EngineId} {kind : FrameKind} {body : ScriptRun Result}
    {world after : World} {entered : Session} {outcome : Except ScriptError Result}
    (enters : (world.session engine).enter kind = .ok entered)
    (ran : (polledBody entered body).outcome (world.withSession engine entered) =
      (.ok outcome, after)) :
    ∃ last, (frame engine kind body).outcome world = (ofExcept outcome).outcome last ∧
      after.Rests last ∧ Changes after last := by
  obtain ⟨last, ended, -, rfl | ⟨owed, idled⟩⟩ := outcome_frame_left enters ran
  · exact ⟨_, ended, withSession_rests after engine _, after.withSession_changes engine _⟩
  · have rests : World.Rests _ last :=
      (Leaves.inScope _ (settleEngine_sweeps engine owed)).along idled
    have settles : Leaves Changes _ :=
      .inScope (outcomeCells outcome) (settleEngine_leaves engine owed)
    exact ⟨last, ended, (withSession_rests after engine _).trans rests,
      (after.withSession_changes engine _).trans (settles.along idled)⟩

/-- Host code that ended in the frame it was called in is what the frame comes to. -/
theorem frame_framed {engine : EngineId} {body : HostRun Result}
    {change : World → HostError → ScriptError} {world : World} {entered : Session}
    (enters : (world.session engine).enter .hostCall = .ok entered)
    (unasked : entered.poll = .ok ()) :
    Framed change body world ((frame engine .hostCall (mapFailure change body)).outcome world) := by
  let start := world.withSession engine entered
  have inside : (polledBody entered (mapFailure change body)).outcome start =
      (settle (scope (mapFailure change body)) :
        ScriptRun (Except ScriptError Result)).outcome start := by
    unfold polledBody
    rw [unasked]
    rfl
  rw [outcome_settle, outcome_scope, outcome_mapFailure] at inside
  have entering : world.Rests start := withSession_rests world engine entered
  have opening : Changes world start := world.withSession_changes engine entered
  rcases ran : body.outcome start with ⟨(error | _) | result, left⟩
  · rw [ran] at inside
    obtain ⟨last, ended, rests, changes⟩ := frame_left_rests enters inside
    rw [ended]
    exact .ended entering opening rfl ran (.trans (RunRelation.held left _) rests)
      (.trans (RunRelation.held left _) changes)
  · rw [ran] at inside
    rw [outcome_frame_stuck enters inside]
    exact .ended entering opening rfl ran (RunRelation.held left _) (RunRelation.held left _)
  · rw [ran] at inside
    obtain ⟨last, ended, rests, changes⟩ := frame_left_rests enters inside
    rw [ended]
    exact .ended entering opening rfl ran (.trans (RunRelation.held left _) rests)
      (.trans (RunRelation.held left _) changes)

/-- An error of host code in the words of the engine that called it. -/
def hostFailure (engine : EngineId) (left : World) (error : HostError) : ScriptError :=
  error.toScriptError (left.engine engine).session.interruptRequested

/-- Host code called in a frame runs from the store as it was, if it runs at all. -/
theorem callHost_framed (engine : EngineId) (body : HostRun Result) (world : World) :
    Framed (hostFailure engine) body world ((callHost engine body).outcome world) := by
  unfold callHost requireAlive
  rw [bind_assoc, outcome_bind_of_ok (outcome_engine engine world)]
  cases (world.engine engine).isDisposed with
  | true => exact .refused (RunRelation.refl world) .refl
  | false =>
    show Framed _ body world ((frame engine .hostCall _).outcome world)
    cases enters : (world.session engine).enter .hostCall with
    | error error =>
      unfold frame
      rw [outcome_frameWith_refused enters]
      exact .refused (RunRelation.refl world) .refl
    | ok entered =>
      cases polled : entered.poll with
      | ok => exact frame_framed enters polled
      | error error =>
        -- An interrupt is pending: the frame is left before the body runs.
        have inside {other : ScriptRun Result} :
            (polledBody entered other).outcome (world.withSession engine entered) =
              (.ok (.error error), world.withSession engine entered) := by
          unfold polledBody
          rw [polled]
          rfl
        obtain ⟨last, ended, rests, changes⟩ := frame_left_rests enters inside
        rw [ended]
        exact .refused ((withSession_rests world engine entered).trans rests)
          ((world.withSession_changes engine entered).trans changes)

/-! ### Marshaling -/

theorem reserve_rests (engine : EngineId) : Leaves World.Rests (reserve engine) :=
  reserve_leaves_of reap_sweeps (sweep_sweeps engine)

theorem findOrMake_rests {Key : Type} [BEq Key] (entries : ProxyCache → List (Key × CellId))
    (add : ProxyCache → CellId → ProxyCache) (key : Key) (proxy : Proxy) :
    Leaves World.Rests (findOrMake entries add key proxy) := by
  refine .bind (.engine _) fun state => .bind (findLive_leaves_of reap_sweeps _ _) fun found => ?_
  split
  · exact .bind (.keep _) fun _ => .pure _
  · exact .bind (create_rests _) fun made =>
      .bind (modifyEngine_sweeps _ fun _ => rfl) fun _ => .pure _

theorem findReference_rests (engine : EngineId) (value : Value) (view : Option TypeKey)
    (flags : ItemFlags) : Leaves World.Rests (findReference engine value view flags) := by
  refine .bind (requireCache_leaves engine) fun _ => ?_
  split
  · exact findOrMake_rests _ _ _ _
  · exact .bind (.typeText value) fun _ => .raise _

theorem findHandle_rests (engine : EngineId) (type : TypeRef) (flags : ItemFlags) :
    Leaves World.Rests (findHandle engine type flags) :=
  .bind (requireCache_leaves engine) fun _ => findOrMake_rests _ _ _ _

theorem boxValue_rests (engine : EngineId) (value : Value) (flags : ItemFlags) :
    Leaves World.Rests (boxValue engine value flags) :=
  .bind (.holdCells _) fun _ => .bind (reserve_rests engine) fun _ =>
    .bind (requireCache_leaves engine) fun _ => create_rests _

theorem proxyReference_rests (engine : EngineId) (value : Value) (declared : TypeRef)
    (flags : ItemFlags) : Leaves World.Rests (proxyReference engine value declared flags) :=
  .bind (.holdCells _) fun _ => .bind (.readStore _) fun view =>
    .bind (reserve_rests engine) fun _ => findReference_rests engine value view flags

theorem adopt_rests (engine : EngineId) (value : Script.Value) :
    Leaves World.Rests (adopt engine value) := by
  refine .bind (.holdCells _) fun _ => ?_
  cases value with
  | proxy cell =>
    refine .bind (.readStore _) fun proxy => ?_
    split
    · exact .pure _
    · split
      · exact .bind (findHandle_rests engine _ _) fun _ => .pure _
      · exact .bind (boxValue_rests engine _ _) fun _ => .pure _
      · exact .bind (.observe _) fun reached => .bind (.ofExcept _) fun target =>
          .bind (.holdCells _) fun _ => .bind (reserve_rests engine) fun _ =>
            .bind (findReference_rests engine _ _ _) fun _ => .pure _
  | _ => exact .pure _

theorem makesForms_rests (engine : EngineId) : MakesForms World.Rests engine where
  reserve := reserve_rests engine
  reference value declared := proxyReference_rests engine value declared .none
  boxed value _ := boxValue_rests engine value .none
  handle type := findHandle_rests engine type .none
  adopted := adopt_rests engine
  array _ := create_rests _

/-- Marshaling rests if the marshaling of items does. -/
theorem toScript_rests {calls : Calls} {engine : EngineId}
    (marshals : ∀ value type, Leaves World.Rests (calls.toScript engine value type))
    (value : Value) (declared : TypeRef) :
    Leaves World.Rests (toScript calls engine value declared) :=
  toScript_leaves (makesForms_rests engine) marshals value declared

/-- Marshaling rests within every depth. -/
theorem startWithin_toScript_rests (depth : Nat) (engine : EngineId) (value : Value)
    (type : TypeRef) :
    Leaves World.Rests ((Script.startWithin depth).toScript engine value type) := by
  induction depth generalizing value type with
  | zero => exact .exhausted
  | succ depth inductionHypothesis =>
    exact toScript_rests inductionHypothesis value type

end Bridge

end ScriptBridge
