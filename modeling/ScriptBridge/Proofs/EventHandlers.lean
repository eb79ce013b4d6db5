/-
This file proves that the handlers of an event are those of its live connections, in
the order of connecting. Nothing that happens to a world does more to the ledger of an
event than to add connections at its end and to mark them as undone. Connecting a
function adds one entry, whose handler is a delegate of its own; disconnecting marks
one, once; and firing invokes the handlers that there are when it starts, whatever
these do to the event.
-/

import ScriptBridge.Proofs.EventLedger
import ScriptBridge.Proofs.AccessControl
import ScriptBridge.Proofs.Conformance
import ScriptBridge.Proofs.Moments
import ScriptBridge.Proofs.WorkspaceSteps

namespace ScriptBridge

open Host Run Bridge Binding

/-! ### What happens -/

section

variable {source : CellId} {event : String}

instance : ChangeRelation (World.Carries source event) where
  change _ _ ties _ := .of_keepsTies ties

theorem World.Carries.of_makings {before after : World} (makings : Makings before after) :
    World.Carries source event before after :=
  makings.related fun _ _ ties => .of_keepsTies ties

instance : ModuleRelation (World.Carries source event) where
  step _ _ _ ties _ := .of_keepsTies ties
  connect connects := connects.carries
  disconnect disconnects := disconnects.carries
  convey _ _ makings _ _ := .of_makings makings
  dispose _ _ := .of_store rfl
  modules _ _ _ := .of_store rfl

instance : WorkspaceRelation (World.Carries source event) where
  around _ store _ := .of_store store
  create _ _ _ _ := .of_store rfl
  close _ _ := .of_store rfl
  govern _ _ _ := .of_store rfl
  tell _ _ _ := .of_store rfl

end

/-- What may happen in a world in which handlers come and go: a step of a workspace; an operation or
an expression of script; host code, which fires events; and the undoing of a connection. -/
inductive World.Unfolds (calls : Calls) : World → World → Prop
  | step (world : World) (step : Workspace.Step) :
      Unfolds calls world (Workspace.runStep calls step world).2
  | operation (world : World) (engine : EngineId) (operation : Operation) :
      Unfolds calls world ((operation.run calls engine).outcome world).2
  | script (world : World) (context : Script.Context) (code : Script.Code) :
      Unfolds calls world ((code.run calls context).outcome world).2
  | host (world : World) (setting : Setting) (arguments : List Value) (code : Host.Code) :
      Unfolds calls world ((runCode calls setting arguments code).outcome world).2
  | fire (world : World) (self : Value) (event : String) (arguments : List Value) :
      Unfolds calls world ((fireEvent calls self event arguments).outcome world).2
  | undo (world : World) (connection : Value) :
      Unfolds calls world ((undoConnection connection).outcome world).2

variable {source : CellId} {event : String}

theorem World.Unfolds.carries {depth : Nat} {before after : World}
    (unfolds : World.Unfolds (Script.startWithin depth) before after) :
    World.Carries source event before after := by
  have reach : (Script.startWithin depth).Reach (World.Carries source event) :=
    Script.startWithin_goes depth
  cases unfolds with
  | step step =>
    exact Workspace.runStep_leaves reach (ModuleRequest.answer_reaches reach) step
      (fun _ _ => TakesIn.of_makings World.Carries.of_makings) before
  | operation engine operation => exact operation.run_reaches reach engine before
  | script context code => exact Script.Code.run_reaches reach context code before
  | host setting arguments code => exact Host.runCode_reaches reach setting arguments code before
  | fire self event arguments => exact fireEvent_reaches reach self event arguments before
  | undo connection =>
    exact (undoConnection_leaves connection : Leaves (World.Carries source event) _) before

/-! ### Connecting a function -/

/-- How connecting a function ends for the events of all objects: with an error before anything is
added, or with an entry more in the ledger of one event. Its handler is new, and calls the function
as long as it is there. -/
inductive ConnectEnds (function : CellId) (world : World) :
    Except (Halt ScriptError) Script.Value × World → Prop
  | refused {halt : Halt ScriptError} {after : World}
      (keeps : ∀ source event, World.KeepsEvent source event world after) :
      ConnectEnds function world (.error halt, after)
  | connected {ended : Except (Halt ScriptError) Script.Value} {after : World}
      {source : CellId} {event : String} {bond : Bond} (own : bond.IsOwn)
      (connected : bond.connected = true) (since : bond.since = world.store.cells.size)
      (tallies : ∀ ledger, world.Tallies source event ledger →
        after.Tallies source event (ledger ++ [bond]))
      (others : ∀ other name, ¬(other = source ∧ name = event) →
        World.KeepsEvent other name world after)
      (calls : ∀ contents, after.store.get? bond.handler = some contents →
        ∃ key, contents = .delegate key (.function function)) :
      ConnectEnds function world (ended, after)

/-- Marshaling an object changes little, and makes no call. -/
theorem toScript_object_leaves {conduct : Conduct} [ChangeConduct conduct] (calls : Calls)
    (engine : EngineId) (cell : CellId) (declared : TypeRef) :
    Leaves conduct (toScript calls engine (.object cell) declared) :=
  .inScope _ (.bind (.engine engine) fun _ =>
    .bind (proxyReference_leaves _ fun weak _ =>
      makes_of_apt (ProxyTarget.isApt_of_hasWeakForm weak)) fun _ => .pure _)

theorem toScript_object_rests (calls : Calls) (engine : EngineId) (cell : CellId)
    (declared : TypeRef) : Leaves World.Rests (toScript calls engine (.object cell) declared) :=
  .inScope _ (.bind (.engine engine) fun _ =>
    .bind (proxyReference_rests engine _ declared .none) fun _ => .pure _)

namespace ConnectEnds

variable {function : CellId} {world seen after left : World}
  {ended : Except (Halt ScriptError) Script.Value}

/-- What is in use, and what happened besides, does not matter. -/
theorem of_store (ends : ConnectEnds function seen (ended, left)) (opens : seen.store = world.store)
    (closes : after.store = left.store) : ConnectEnds function world (ended, after) := by
  cases ends with
  | refused keeps =>
    exact .refused fun source event =>
      .trans (.of_store opens) ((keeps source event).trans (.of_store closes))
  | @connected _ _ source event bond own connected since tallies others calls =>
    refine @ConnectEnds.connected _ _ _ _ source event bond own connected (opens ▸ since) ?_ ?_
      (closes ▸ calls)
    · intro ledger tallied
      exact (tallies ledger (tallied.keepsEvent (.of_store opens))).keepsEvent (.of_store closes)
    · intro other name different
      exact .trans (.of_store opens) ((others other name different).trans (.of_store closes))

end ConnectEnds

end ScriptBridge
