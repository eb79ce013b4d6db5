/-
This file takes events whose hooks are any host code that does what it is for or fails
and does nothing. A connection is made after its handler was added, and its proxy after
that: where the proxy is refused, connecting fails and the handler stays. Disconnecting
marks the connection before the handler is removed: where that fails, the handler stays
as well, and disconnecting again does nothing. In every other case a call that fails
leaves the event as it was, and a connection reports that it is connected as long as its
registration is in place.
-/

import ScriptBridge.Proofs.CallForms
import ScriptBridge.Proofs.EventHandlers
import ScriptBridge.Proofs.Rosters

namespace ScriptBridge

open Host Run Bridge Binding

/-! ### Hooks -/

/-- How a hook ends: it has done to the handlers what it is for, or it has failed and done
nothing. -/
inductive HookEnds (roster : Roster) (change : List CellId → List CellId) (store : Store) :
    Except (Halt HostError) Unit × World → Prop
  | done {after : World} (becomes : roster.Becomes change store after.store) :
      HookEnds roster change store (.ok (), after)
  | failed {halt : Halt HostError} {after : World} (stays : roster.Stays store after.store) :
      HookEnds roster change store (.error halt, after)

/-- The hooks serve an event: they add a handler at its end and remove the first registration of
one, or fail and do nothing, and for other events they leave this one alone. -/
structure Host.EventHooks.Serve (hooks : EventHooks) (roster : Roster) : Prop where
  add : ∀ handler world, roster.IsBorn world.store → HookEnds roster (· ++ [handler]) world.store
    ((hooks.add roster.source roster.event handler).outcome world)
  remove : ∀ handler world, roster.IsBorn world.store →
    HookEnds roster (·.erase handler) world.store
      ((hooks.remove roster.source roster.event handler).outcome world)
  addOther : ∀ source event handler world, roster.IsBorn world.store →
    ¬(source = roster.source ∧ event = roster.event) →
      roster.Stays world.store ((hooks.add source event handler).outcome world).2.store
  removeOther : ∀ source event handler world, roster.IsBorn world.store →
    ¬(source = roster.source ∧ event = roster.event) →
      roster.Stays world.store ((hooks.remove source event handler).outcome world).2.store

/-- The handlers of an event that an object keeps. -/
def Roster.ofObject (cell : CellId) (event : String) : Roster where
  source := .object cell
  event := event
  home := cell
  read
    | .object object => object.handlersOf event
    | _ => []
  read_connection _ := rfl

/-- Host code that changes the object that is its instance. -/
abbrev altering (self : Value) (change : HostObject → HostObject) : HostRun Unit := do
  let (cell, object) ← stateOf self
  modifyStore fun store => store.put cell (.object (change object))

namespace Roster

variable {cell owner : CellId} {event : String} {change : List CellId → List CellId}
  {store : Store} {object changed : HostObject}

/-- An object changes the handlers of an event of its own, or is another one. -/
theorem ofObject_put (found : store.object? owner = some object)
    (here : owner = cell → changed.handlersOf event = change (object.handlersOf event))
    (elsewhere : owner ≠ cell → ∀ handlers, change handlers = handlers) :
    (ofObject cell event).Becomes change store (store.put owner (.object changed)) where
  size_le := Nat.le_of_eq (Store.size_put _ _ _).symm
  handlers {now} known := by
    have living : store.get? owner = some (.object object) := Store.object?_eq_some.mp found
    obtain ⟨contents, written, rfl⟩ := Option.map_eq_some_iff.mp known
    by_cases same : owner = cell
    · subst same
      cases (Store.get?_put_self (Store.lt_size_of_get? living)).symm.trans written
      exact ⟨_, Option.map_eq_some_iff.mpr ⟨_, living, rfl⟩, here rfl⟩
    · have former := (Store.get?_put_of_ne same).symm.trans written
      exact ⟨_, Option.map_eq_some_iff.mpr ⟨_, former, rfl⟩, (elsewhere same _).symm⟩
  bonds known _ := by
    rcases Store.get?_put known with same | ⟨-, made⟩
    · exact same
    · cases made

variable (world : World) {alter : HostObject → HostObject}

/-- The object that keeps the handlers is changed, or the code fails. -/
theorem altering_ends
    (alters : ∀ object, (alter object).handlersOf event = change (object.handlersOf event)) :
    HookEnds (ofObject cell event) change world.store
      ((altering (.object cell) alter).outcome world) := by
  rw [outcome_bind]
  obtain ⟨owner, object, same, found, ran⟩ | ⟨-, halt, ran⟩ :=
    outcome_stateOf (.object cell) world
  · cases same
    rw [ran]
    exact .done (ofObject_put found (fun _ => alters object) fun different => absurd rfl different)
  · rw [ran]
    exact .failed (.refl _)

/-- Another object is changed, or another event of this one. -/
theorem altering_stays {self : Value} (spares : self = .object cell → ∀ object,
      (alter object).handlersOf event = object.handlersOf event) :
    (ofObject cell event).Stays world.store ((altering self alter).outcome world).2.store := by
  rw [outcome_bind]
  obtain ⟨owner, object, rfl, found, ran⟩ | ⟨-, halt, ran⟩ := outcome_stateOf self world
  · rw [ran]
    exact ofObject_put found (fun same => spares (congrArg Value.object same) object) fun _ _ => rfl
  · rw [ran]
    exact .refl _

end Roster

theorem addHandler_eq (self : Value) (event : String) (handler : CellId) :
    addHandler self event handler = altering self (·.attach event handler) := rfl

theorem removeHandler_eq (self : Value) (event : String) (handler : CellId) :
    removeHandler self event handler = altering self (·.detach event handler) := rfl

/-- The hooks of events whose handlers objects keep serve every event of an object. -/
theorem kept_serve (cell : CellId) (event : String) :
    EventHooks.kept.Serve (.ofObject cell event) where
  add handler world _ := by
    dsimp only [EventHooks.kept, Roster.ofObject]
    rw [addHandler_eq]
    exact Roster.altering_ends world fun object =>
      (object.handlersOf_attach event event handler).trans (if_pos rfl)
  remove handler world _ := by
    dsimp only [EventHooks.kept, Roster.ofObject]
    rw [removeHandler_eq]
    exact Roster.altering_ends world fun object =>
      (object.handlersOf_detach event event handler).trans (if_pos rfl)
  addOther source name handler world _ other := by
    dsimp only [EventHooks.kept]
    rw [addHandler_eq]
    exact Roster.altering_stays world fun same object =>
      (object.handlersOf_attach name event handler).trans
        (if_neg fun named => other ⟨same, named.symm⟩)
  removeOther source name handler world _ other := by
    dsimp only [EventHooks.kept]
    rw [removeHandler_eq]
    exact Roster.altering_stays world fun same object =>
      (object.handlersOf_detach name event handler).trans
        (if_neg fun named => other ⟨same, named.symm⟩)

/-! ### Disconnecting -/

namespace Host.EventHooks

variable {hooks : EventHooks} {roster : Roster} {world : World} {cell : CellId} {bond : Connection}

/-- A connection of the event is marked in any case, and its registration undone or left. -/
theorem Serve.undo (serve : hooks.Serve roster) (born : roster.IsBorn world.store)
    (found : world.store.get? cell = some (.connection bond)) (binds : roster.Binds bond)
    (connected : bond.connected = true) :
    HookEnds roster (·.erase bond.handler) (world.store.undo cell bond)
      ((hooks.undo (.object cell)).outcome world) := by
  rw [outcome_undo hooks found connected, binds.1, binds.2]
  exact serve.remove bond.handler { world with store := world.store.undo cell bond }
    (Nat.lt_of_lt_of_eq born (Store.size_undo _ _ _).symm)

/-- What is undone is a connection of the event, or the event stays as it is. -/
theorem Serve.undo_cases (serve : hooks.Serve roster) (born : roster.IsBorn world.store)
    (cell : CellId) :
    (∃ bond, world.store.get? cell = some (.connection bond) ∧ roster.Binds bond ∧
      bond.connected = true) ∨
      roster.Stays world.store ((hooks.undo (.object cell)).outcome world).2.store := by
  rcases outcome_connectionOf (.object cell) world with ⟨_, bond, same, found, -⟩ | ⟨halt, ran⟩
  · cases same
    cases connected : bond.connected with
    | false =>
      rw [outcome_undo_of_undone hooks found connected]
      exact .inr (.refl _)
    | true =>
      by_cases binds : roster.Binds bond
      · exact .inl ⟨bond, found, binds, connected⟩
      · have stays : roster.Stays world.store (world.store.undo cell bond) :=
          Roster.stays_undo found binds
        have removes := serve.removeOther bond.source bond.event bond.handler
          { world with store := world.store.undo cell bond } (stays.born born) binds
        rw [outcome_undo hooks found connected]
        exact .inr (stays.stays removes)
  · unfold EventHooks.undo
    rw [outcome_bind_of_error ran]
    exact .inr (.refl _)

end Host.EventHooks

/-! ### Connecting -/

theorem handlerOf_grows (engine : EngineId) (type : TypeRef) (arguments : List Script.Value) :
    Leaves Grows (handlerOf engine type arguments) := by
  unfold handlerOf
  split
  · refine .bind (.held (.mapFailure (toHost_grows engine _ type))) fun converted => ?_
    split
    · exact .pure _
    · exact .bind .types fun _ => .bind (.typeText _) fun _ => .raise _
  · exact .raise _

/-- How the making of a connection ends: with an error before anything is added; for another event;
or with a registration more. -/
inductive MakingEnds (roster : Roster) (scene : Scene) (slot : Slot) (store : Store) :
    Except (Halt ScriptError) CellId × World → Prop
  | refused {halt : Halt ScriptError} {after : World} (stays : roster.Stays store after.store) :
      MakingEnds roster scene slot store (.error halt, after)
  | elsewhere {connection : CellId} {after : World}
      (other : ¬(scene.subject.self = roster.source ∧
        slot.implementation.name = roster.event))
      (stays : roster.Stays store after.store) :
      MakingEnds roster scene slot store (.ok connection, after)
  | made {connection handler : CellId} {after : World}
      (here : scene.subject.self = roster.source ∧ slot.implementation.name = roster.event)
      (gains : roster.Gains connection handler store after.store) :
      MakingEnds roster scene slot store (.ok connection, after)

theorem makeConnection_makingEnds {hooks : EventHooks} {roster : Roster}
    (serve : hooks.Serve roster) (engine : EngineId) (scene : Scene) (slot : Slot)
    (arguments : List Script.Value) {world : World} (born : roster.IsBorn world.store) :
    MakingEnds roster scene slot world.store
      ((makeConnection hooks engine scene slot arguments).outcome world) := by
  have grows : Grows world _ := handlerOf_grows engine slot.declaration.type arguments world
  unfold makeConnection
  rw [outcome_bind]
  rcases ran : (handlerOf engine slot.declaration.type arguments).outcome world with
    ⟨halt | handler, ready⟩
  · rw [ran] at grows
    exact .refused (.of_rests grows.rests grows.changes born)
  rw [ran] at grows
  have readies : roster.Stays world.store ready.store := .of_rests grows.rests grows.changes born
  dsimp only
  rw [outcome_bind]
  have framed := callHost_framed engine (attaching hooks scene slot handler) ready
  generalize (callHost engine (attaching hooks scene slot handler)).outcome ready = outcome
    at framed ⊢
  cases framed with
  | refused rests changes =>
    exact .refused (readies.stays (.of_rests rests changes (readies.born born)))
  | @ended before left after result enters opens _ ran rests closes =>
    have starts : roster.Stays world.store before.store :=
      readies.stays (.of_rests enters opens (readies.born born))
    have started : roster.IsBorn before.store := starts.born born
    let noted := { before with history := .used ⟨scene, slot, .attach⟩ :: before.history }
    have added : (hooks.add scene.subject.self slot.implementation.name handler).outcome noted =
        (result, left) := ran
    by_cases here : scene.subject.self = roster.source ∧ slot.implementation.name = roster.event
    · have ends := serve.add handler noted started
      rw [← here.1, ← here.2, added] at ends
      cases ends with
      | done becomes =>
        have leaves : roster.Stays left.store after.store :=
          .of_rests rests closes (becomes.born started)
        exact .made here (Roster.Gains.create (starts.trans becomes) leaves born rfl)
      | @failed halt _ stays =>
        obtain ⟨seen, fails⟩ := seenIn_error (hostFailure engine) left halt
        rw [fails]
        exact .refused ((starts.stays stays).stays
          (.of_rests rests closes (stays.born started)))
    · have stays := serve.addOther _ _ handler noted started here
      rw [added] at stays
      have leaves : roster.Stays world.store after.store :=
        (starts.stays stays).stays (.of_rests rests closes (stays.born started))
      rcases result with halt | ⟨⟩
      · obtain ⟨seen, fails⟩ := seenIn_error (hostFailure engine) left halt
        rw [fails]
        exact .refused leaves
      · refine .elsewhere here (leaves.stays ?_)
        exact Roster.stays_create (leaves.born born) here

/-- Connecting through the member, with such arguments, comes to the slot of the scene. -/
def BoundMember.LeadsTo (member : BoundMember) (engine : EngineId) (arguments : List Script.Value)
    (world : World) (scene : Scene) (slot : Slot) : Prop :=
  ∃ seen, (look engine member.proxy).outcome
      (world.holding (member.proxy :: arguments.flatMap Script.Value.cells)) = (.ok scene, seen) ∧
    ((scene.lookup member.name).ofKind .event).head? = some slot

/-- How connecting ends for an event: with an error before anything is registered; for another
event; or with a registration more, and as the marshaling of its connection ends. -/
inductive ConnectingEnds (calls : Calls) (engine : EngineId) (member : BoundMember)
    (arguments : List Script.Value) (roster : Roster) (world : World) :
    Except (Halt ScriptError) Script.Value × World → Prop
  | refused {halt : Halt ScriptError} {after : World}
      (stays : roster.Stays world.store after.store) :
      ConnectingEnds calls engine member arguments roster world (.error halt, after)
  | elsewhere {ended : Except (Halt ScriptError) Script.Value} {after : World} {scene : Scene}
      {slot : Slot} (leads : member.LeadsTo engine arguments world scene slot)
      (other : ¬(scene.subject.self = roster.source ∧ slot.implementation.name = roster.event))
      (stays : roster.Stays world.store after.store) :
      ConnectingEnds calls engine member arguments roster world (ended, after)
  | made {ended : Except (Halt ScriptError) Script.Value} {registered left after : World}
      {scene : Scene} {slot : Slot} {connection handler : CellId}
      (leads : member.LeadsTo engine arguments world scene slot)
      (here : scene.subject.self = roster.source ∧ slot.implementation.name = roster.event)
      (gains : roster.Gains connection handler world.store after.store)
      (marshals : (toScript calls engine (.object connection) (.named Builtin.connection)).outcome
        registered = (ended, left)) :
      ConnectingEnds calls engine member arguments roster world (ended, after)

/-- Marshaling an object does not change an event. -/
theorem toScript_object_stays (calls : Calls) (engine : EngineId) (cell : CellId)
    (declared : TypeRef) {roster : Roster} {world : World} (born : roster.IsBorn world.store) :
    roster.Stays world.store
      ((toScript calls engine (.object cell) declared).outcome world).2.store :=
  have changes : Leaves Changes (toScript calls engine (.object cell) declared) :=
    toScript_object_leaves calls engine cell declared
  .of_rests (toScript_object_rests calls engine cell declared world) (changes world) born

theorem Host.EventHooks.Serve.connectThrough {hooks : EventHooks} {roster : Roster}
    (serve : hooks.Serve roster) (calls : Calls) (engine : EngineId) (member : BoundMember)
    (arguments : List Script.Value) {world : World} (born : roster.IsBorn world.store) :
    ConnectingEnds calls engine member arguments roster world
      ((connectThrough hooks calls engine member arguments).outcome world) := by
  let start := world.holding (member.proxy :: arguments.flatMap Script.Value.cells)
  have kept : ((look engine member.proxy).outcome start).2.store = world.store := by
    rw [outcome_look]
    split <;> rfl
  rw [connectThrough_eq, outcome_scope, outcome_bind_of_ok (outcome_holdCells _ _), outcome_bind]
  rcases looks : (look engine member.proxy).outcome start with ⟨halt | scene, seen⟩
  · rw [looks] at kept
    exact .refused (kept ▸ .refl _)
  rw [looks] at kept
  dsimp only at kept ⊢
  have stays : roster.Stays world.store seen.store := kept ▸ .refl _
  split
  · exact .refused stays
  · next slot rest found =>
    have leads : member.LeadsTo engine arguments world scene slot :=
      ⟨seen, looks, by rw [found]; rfl⟩
    split
    · have making := makeConnection_makingEnds serve engine scene slot arguments
        (stays.born born)
      rw [outcome_bind]
      generalize (makeConnection hooks engine scene slot arguments).outcome seen = outcome
        at making ⊢
      cases making with
      | refused fails => exact .refused (stays.stays fails)
      | @elsewhere connection after other passes =>
        have bare := stays.stays passes
        exact .elsewhere leads other
          (bare.stays (toScript_object_stays calls engine connection _ (bare.born born)))
      | @made connection handler after here gains =>
        have gained : roster.Gains connection handler world.store after.store := kept ▸ gains
        have still : roster.IsBorn after.store := Nat.lt_of_lt_of_le born
          (Nat.le_trans gained.fresh (Nat.le_of_lt gained.inside))
        exact .made leads here
          (gained.stays (toScript_object_stays calls engine connection _ still)) rfl
    · exact .refused stays

/-! ### Sequences of calls -/

namespace Host.EventHooks

variable {hooks : EventHooks} {calls : Calls} {roster : Roster} {start world : World}
  {ledger : Ledger} {stuck : List CellId}

/-- What becomes of a world by calls that connect and disconnect, and between these by anything that
leaves the event alone. The list has the connections whose disconnecting has failed. -/
inductive Runs (hooks : EventHooks) (calls : Calls) (roster : Roster) (start : World) :
    World → List CellId → Prop
  | start : Runs hooks calls roster start start []
  | stays {world after : World} {stuck : List CellId}
      (runs : Runs hooks calls roster start world stuck)
      (stays : roster.Stays world.store after.store) : Runs hooks calls roster start after stuck
  | connect {world : World} {stuck : List CellId}
      (runs : Runs hooks calls roster start world stuck) (engine : EngineId)
      (member : BoundMember) (arguments : List Script.Value) :
      Runs hooks calls roster start
        ((Binding.connectThrough hooks calls engine member arguments).outcome world).2 stuck
  | disconnect {world after : World} {stuck : List CellId} {cell : CellId}
      (runs : Runs hooks calls roster start world stuck)
      (ran : (hooks.undo (.object cell)).outcome world = (.ok (), after)) :
      Runs hooks calls roster start after stuck
  | fail {world after : World} {stuck : List CellId} {cell : CellId} {halt : Halt HostError}
      (runs : Runs hooks calls roster start world stuck)
      (ran : (hooks.undo (.object cell)).outcome world = (.error halt, after)) :
      Runs hooks calls roster start after (cell :: stuck)

/-- Connecting adds a registration at the end, or none. -/
theorem Serve.connect_tallies (serve : hooks.Serve roster)
    (tallies : roster.Tallies world.store ledger stuck) (engine : EngineId) (member : BoundMember)
    (arguments : List Script.Value) :
    ∃ later, ledger.Goes later ∧ roster.Tallies
      ((Binding.connectThrough hooks calls engine member arguments).outcome world).2.store
      later stuck := by
  have ends := serve.connectThrough calls engine member arguments tallies.born
  generalize (Binding.connectThrough hooks calls engine member arguments).outcome world = outcome
    at ends ⊢
  cases ends with
  | refused stays => exact ⟨ledger, .refl, tallies.stays stays⟩
  | elsewhere _ _ stays => exact ⟨ledger, .refl, tallies.stays stays⟩
  | made _ _ gains _ => exact ⟨_, .single (.connect _ _ _ _), tallies.gains gains⟩

/-- Disconnecting undoes the registration of the connection, or none. -/
theorem Serve.undo_tallies (serve : hooks.Serve roster)
    (tallies : roster.Tallies world.store ledger stuck) {cell : CellId} {after : World}
    (ran : (hooks.undo (.object cell)).outcome world = (.ok (), after)) :
    ∃ later, ledger.Goes later ∧ roster.Tallies after.store later stuck := by
  rcases serve.undo_cases tallies.born cell with ⟨bond, found, binds, connected⟩ | stays
  · have ends := serve.undo tallies.born found binds connected
    rw [ran] at ends
    cases ends with
    | done erases =>
      exact ⟨_, .single (.undo ledger cell), tallies.undo found binds connected erases⟩
  · rw [ran] at stays
    exact ⟨ledger, .refl, tallies.stays stays⟩

/-- Where disconnecting fails, no registration is undone. -/
theorem Serve.undo_sticks (serve : hooks.Serve roster)
    (tallies : roster.Tallies world.store ledger stuck) {cell : CellId} {after : World}
    {halt : Halt HostError}
    (ran : (hooks.undo (.object cell)).outcome world = (.error halt, after)) :
    roster.Tallies after.store ledger (cell :: stuck) := by
  rcases serve.undo_cases tallies.born cell with ⟨bond, found, binds, connected⟩ | stays
  · have ends := serve.undo tallies.born found binds connected
    rw [ran] at ends
    cases ends with
    | failed stays => exact tallies.stick found stays
  · rw [ran] at stays
    exact (tallies.stays stays).sticks cell

/-- Registrations come at the end and are undone at most, in every sequence of calls. -/
theorem Serve.runs (serve : hooks.Serve roster) (tallies : roster.Tallies start.store ledger [])
    (runs : Runs hooks calls roster start world stuck) :
    ∃ later, ledger.Goes later ∧ roster.Tallies world.store later stuck := by
  induction runs with
  | start => exact ⟨ledger, .refl, tallies⟩
  | stays _ stays inductionHypothesis =>
    obtain ⟨later, goes, tallied⟩ := inductionHypothesis
    exact ⟨later, goes, tallied.stays stays⟩
  | connect _ engine member arguments inductionHypothesis =>
    obtain ⟨between, early, tallied⟩ := inductionHypothesis
    obtain ⟨later, late, done⟩ := serve.connect_tallies tallied engine member arguments
    exact ⟨later, early.trans late, done⟩
  | disconnect _ ran inductionHypothesis =>
    obtain ⟨between, early, tallied⟩ := inductionHypothesis
    obtain ⟨later, late, done⟩ := serve.undo_tallies tallied ran
    exact ⟨later, early.trans late, done⟩
  | fail _ ran inductionHypothesis =>
    obtain ⟨later, goes, tallied⟩ := inductionHypothesis
    exact ⟨later, goes, serve.undo_sticks tallied ran⟩

/-- Disconnecting leaves the event where it was. -/
theorem Serve.undo_born (serve : hooks.Serve roster) (born : roster.IsBorn world.store)
    (cell : CellId) :
    roster.IsBorn ((hooks.undo (.object cell)).outcome world).2.store := by
  rcases serve.undo_cases born cell with ⟨bond, found, binds, connected⟩ | stays
  · have marked : roster.IsBorn (world.store.undo cell bond) :=
      Nat.lt_of_lt_of_eq born (Store.size_undo _ _ _).symm
    have ends := serve.undo born found binds connected
    generalize (hooks.undo (.object cell)).outcome world = outcome at ends ⊢
    cases ends with
    | done erases => exact erases.born marked
    | failed stays => exact stays.born marked
  · exact stays.born born

/-- The host code that disconnects, as script calls it. -/
abbrev disconnecting (hooks : EventHooks) (use : MemberUse) (cell : CellId) : HostRun Unit := do
  note (.used use)
  hooks.undo (.object cell)

/-- A call of script that disconnects is one of the sequence, or it is refused and does nothing. -/
theorem Serve.called (serve : hooks.Serve roster) (born : roster.IsBorn world.store)
    (runs : Runs hooks calls roster start world stuck) (engine : EngineId) (use : MemberUse)
    (cell : CellId) :
    let outcome := (callHost engine (disconnecting hooks use cell)).outcome world
    Runs hooks calls roster start outcome.2 stuck ∨
      (∃ halt, outcome.1 = .error halt) ∧
        Runs hooks calls roster start outcome.2 (cell :: stuck) := by
  have framed := callHost_framed engine (disconnecting hooks use cell) world
  generalize (callHost engine (disconnecting hooks use cell)).outcome world = outcome at framed ⊢
  cases framed with
  | refused rests changes => exact .inl (runs.stays (.of_rests rests changes born))
  | @ended before left after result enters opens _ ran rests closes =>
    have starts : roster.Stays world.store before.store := .of_rests enters opens born
    let noted := { before with history := .used use :: before.history }
    have noting : Runs hooks calls roster start noted stuck := runs.stays starts
    have undone : (hooks.undo (.object cell)).outcome noted = (result, left) := ran
    have started : roster.IsBorn noted.store := starts.born born
    have still := serve.undo_born started cell
    rw [undone] at still
    have leaves : roster.Stays left.store after.store := .of_rests rests closes still
    rcases result with halt | ⟨⟩
    · obtain ⟨seen, fails⟩ := seenIn_error (hostFailure engine) left halt
      exact .inr ⟨⟨seen, fails⟩, (noting.fail undone).stays leaves⟩
    · exact .inl ((noting.disconnect undone).stays leaves)

end Host.EventHooks

/-! ### Registrations and their connections -/

/-- The connections of an event account for its handlers. -/
structure Host.EventHooks.Accounts (hooks : EventHooks) (calls : Calls) (roster : Roster) :
    Prop where
  /-- An event without handlers and connections has no registration. -/
  empty : ∀ {store : Store}, roster.IsBorn store →
    (∀ {cell : CellId} {bond : Connection}, store.get? cell = some (.connection bond) →
      ¬roster.Binds bond) → (∀ {now}, roster.handlers? store = some now → now = []) →
        roster.Tallies store [] []
  /-- Connecting fails and registers nothing, or it registers the handler, and fails if the
  connection is refused a proxy. -/
  connects : ∀ engine member arguments {world : World}, roster.IsBorn world.store →
    ConnectingEnds calls engine member arguments roster world
      ((connectThrough hooks calls engine member arguments).outcome world)
  /-- Disconnecting marks the connection, and then undoes the registration, or fails. -/
  disconnects : ∀ {world : World} {cell : CellId} {bond : Connection}, roster.IsBorn world.store →
    world.store.get? cell = some (.connection bond) → roster.Binds bond → bond.connected = true →
      HookEnds roster (·.erase bond.handler) (world.store.undo cell bond)
        ((hooks.undo (.object cell)).outcome world)
  /-- Disconnecting again does nothing, even if it has failed before. -/
  rests : ∀ {world : World} {cell : CellId} {bond : Connection},
    world.store.get? cell = some (.connection bond) → bond.connected = false →
      (hooks.undo (.object cell)).outcome world = (.ok (), world)
  /-- In every sequence of calls registrations come at the end, and are undone at most. -/
  goes : ∀ {start world : World} {ledger : Ledger} {stuck : List CellId},
    roster.Tallies start.store ledger [] → hooks.Runs calls roster start world stuck →
      ∃ later, ledger.Goes later ∧ roster.Tallies world.store later stuck
  /-- A connection reports that it is connected only while its registration is in place, and all
  that time unless disconnecting it has failed. -/
  reports : ∀ {store : Store} {ledger : Ledger} {stuck : List CellId} {cell : CellId}
    {bond : Connection}, roster.Tallies store ledger stuck →
      store.get? cell = some (.connection bond) → roster.Binds bond →
        ∃ entry ∈ ledger, entry.connection = cell ∧ entry.handler = bond.handler ∧
          (bond.connected = true → entry.connected = true) ∧
            (cell ∉ stuck → (bond.connected = true ↔ entry.connected = true))
  /-- A call of script that disconnects belongs to the sequence, or is refused and does nothing. -/
  called : ∀ {start world : World} {stuck : List CellId} engine use cell,
    roster.IsBorn world.store → hooks.Runs calls roster start world stuck →
      let outcome := (callHost engine (hooks.disconnecting use cell)).outcome world
      hooks.Runs calls roster start outcome.2 stuck ∨
        (∃ halt, outcome.1 = .error halt) ∧
          hooks.Runs calls roster start outcome.2 (cell :: stuck)

/-- Connections account for the handlers of an event, whatever its hooks are. -/
theorem connections_account_for_handlers {hooks : EventHooks} {roster : Roster}
    (serve : hooks.Serve roster) (calls : Calls) : hooks.Accounts calls roster where
  empty born unbound bare :=
    { born
      orderly := ⟨.nil, nofun⟩
      bonds := fun found binds => absurd binds (unbound found)
      handlers := fun found => .of_eq (bare found) }
  connects engine member arguments _ born :=
    serve.connectThrough calls engine member arguments born
  disconnects := serve.undo
  rests := hooks.outcome_undo_of_undone
  goes := serve.runs
  reports tallies found binds := by
    obtain ⟨entry, listed, is, held, reports, lasts⟩ := tallies.bonds found binds
    refine ⟨entry, listed, is, held, reports, fun loose => ⟨reports, fun connected => ?_⟩⟩
    exact (lasts connected).resolve_right loose
  called engine use cell born runs := serve.called born runs engine use cell

/-- The hooks of events that objects keep are of this kind. -/
theorem connections_account_for_handlers_of_object :
    EventHooks.kept.Serve (.ofObject 0 "Changed") ∧
      EventHooks.kept.Accounts (Script.startWithin 4) (.ofObject 0 "Changed") :=
  ⟨kept_serve 0 "Changed",
    connections_account_for_handlers (kept_serve 0 "Changed") (Script.startWithin 4)⟩

/-! ### Calls that fail late -/

/-- A type with an event whose handlers are of the type before it. -/
def Host.HostType.notifier : HostType where
  name := "Notifier"
  kind := .reference
  members := [
    { declaring := 3, declaringAccess := none
      name := "Changed", kind := .event, isStatic := false, isPrivate := false, parameters := []
      type := .named 2, access := none, rename := none, implementation := .event }]

/-- A world with a notifier, its proxy and a function, and room for one of the latter two. -/
def World.withNotifier : World where
  store :=
    { types := ⟨Builtin.types.types ++ #[{ name := "Handler", kind := .delegate ⟨[], .void⟩ },
        .notifier]⟩
      cells := #[some (.object { type := 3 }),
        some (.proxy ⟨0, .reference (.object 0), none, .none⟩),
        some (.function ⟨"listen", 0, .script "main", .null⟩)] }
  engines := #[Engine.new "main" {} none]
  heapLimit := some 1
  heap := { proxies := 1, functions := 1 }
  held := [2, 1, 0]

/-- The connection is refused a proxy, so connecting fails; the handler stays. -/
theorem failed_connect_leaves_handler :
    (Roster.ofObject 0 "Changed").handlers? World.withNotifier.store = some [] ∧
      ∃ error after, (connect (Script.startWithin 4) 0 ⟨1, "Changed", .eventConnect⟩
          [.function 2]).outcome .withNotifier = (.error (.raised error), after) ∧
        (Roster.ofObject 0 "Changed").handlers? after.store = some [3] := by
  refine ⟨rfl, ?_⟩
  have evaluated : let ends := (connect (Script.startWithin 4) 0 ⟨1, "Changed", .eventConnect⟩
        [.function 2]).outcome .withNotifier
      (errorName? ends.1).isSome = true ∧
        (Roster.ofObject 0 "Changed").handlers? ends.2.store = some [3] := by
    decide +kernel
  rcases ends : (connect (Script.startWithin 4) 0 ⟨1, "Changed", .eventConnect⟩
    [.function 2]).outcome .withNotifier with ⟨(error | _) | value, after⟩
  · rw [ends] at evaluated
    exact ⟨error, after, rfl, evaluated.2⟩
  · rw [ends] at evaluated
    cases evaluated.1
  · rw [ends] at evaluated
    cases evaluated.1

/-- Hooks that add handlers and do not let go of them. -/
def Host.EventHooks.grudging : EventHooks :=
  ⟨addHandler, fun _ _ _ => raise (.argument "handler is kept")⟩

/-- A world with a notifier, its connection and the handler of that. -/
def World.withListener : World where
  store := { cells := #[some (.object { type := 3, handlers := [("Changed", [2])] }),
    some (.connection ⟨Builtin.connection, .object 0, 2, "Changed", true⟩),
    some (.delegate 2 (.code []))] }

example : ∃ after, (EventHooks.grudging.undo (.object 1)).outcome .withListener =
      (.error (.raised (.argument "handler is kept")), after) ∧
    (Roster.ofObject 0 "Changed").handlers? after.store = some [2] ∧
    (EventHooks.grudging.undo (.object 1)).outcome after = (.ok (), after) :=
  ⟨_, rfl, rfl, rfl⟩

end ScriptBridge
