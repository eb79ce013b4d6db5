/-
This file keeps a ledger of the connections of one event of one object. Connecting
adds an entry at the end, and disconnecting marks the entry of its connection. The
world tallies with the ledger: the handlers of the event are those of the entries
that are not marked. Whatever running code does to the world, some ledger that went
on in this way tallies afterwards.
-/

import Mathlib.Data.List.Forall2
import ScriptBridge.Proofs.Steps

namespace ScriptBridge

open Host

/-! ### Ledgers -/

/-- What is known of a connection: its cell, its handler, how many cells there were when the
connecting began, and whether it is connected still. -/
structure Bond where
  connection : CellId
  handler : CellId
  since : Nat
  connected : Bool
  deriving DecidableEq, Repr

/-- Did the connecting make the handler, for this connection alone? -/
def Bond.IsOwn (bond : Bond) : Prop :=
  bond.since ≤ bond.handler ∧ bond.handler < bond.connection

/-- An entry of the same connection, which is not connected again. -/
structure Bond.Wanes (was now : Bond) : Prop where
  connection : now.connection = was.connection
  handler : now.handler = was.handler
  since : now.since = was.since
  connected : now.connected = true → was.connected = true

theorem Bond.Wanes.refl (bond : Bond) : bond.Wanes bond := ⟨rfl, rfl, rfl, id⟩

theorem Bond.Wanes.marked {was now : Bond} (wanes : was.Wanes now) (connection : CellId) :
    was.Wanes (if now.connection = connection then { now with connected := false } else now) := by
  split
  · exact ⟨wanes.connection, wanes.handler, wanes.since, nofun⟩
  · exact wanes

/-- The connections of an event in the order they were made. -/
abbrev Ledger := List Bond

namespace Ledger

/-- The handlers of the connections that are connected. -/
def live (ledger : Ledger) : List CellId :=
  (ledger.filter (·.connected)).map (·.handler)

/-- The ledger with the entry of a connection marked as undone. -/
def undo (ledger : Ledger) (connection : CellId) : Ledger :=
  ledger.map fun bond =>
    if bond.connection = connection then { bond with connected := false } else bond

/-- The next moment of a ledger: a connection is made, or one is undone. -/
inductive Turn : Ledger → Ledger → Prop
  | connect (ledger : Ledger) (connection handler since : Nat) :
      Turn ledger (ledger ++ [⟨connection, handler, since, true⟩])
  | undo (ledger : Ledger) (connection : CellId) : Turn ledger (ledger.undo connection)

/-- A ledger that went on from another. -/
abbrev Goes : Ledger → Ledger → Prop := Relation.ReflTransGen Turn

/-- Each connecting began when the connections before it were made, and so many cells there are. -/
structure IsOrderly (ledger : Ledger) (size : Nat) : Prop where
  ordered : ledger.Pairwise fun earlier later => earlier.connection < later.since
  spans : ∀ bond ∈ ledger, bond.since ≤ bond.connection ∧ bond.connection < size

@[simp]
theorem live_nil : live [] = [] := rfl

theorem live_cons (bond : Bond) (ledger : Ledger) :
    live (bond :: ledger) =
      if bond.connected then bond.handler :: live ledger else live ledger := by
  unfold live
  rw [List.filter_cons]
  split <;> rfl

@[simp]
theorem live_append (ledger more : Ledger) : live (ledger ++ more) = live ledger ++ live more := by
  simp [live]

@[simp]
theorem undo_cons (bond : Bond) (ledger : Ledger) (connection : CellId) :
    undo (bond :: ledger) connection =
      (if bond.connection = connection then { bond with connected := false } else bond) ::
        undo ledger connection := rfl

/-- An undone entry is as it was but for its mark. -/
theorem mem_undo {ledger : Ledger} {connection : CellId} {bond : Bond}
    (listed : bond ∈ ledger.undo connection) :
    ∃ former ∈ ledger, bond.connection = former.connection ∧ bond.handler = former.handler ∧
      bond.since = former.since := by
  obtain ⟨former, known, rfl⟩ := List.mem_map.mp listed
  refine ⟨former, known, ?_⟩
  split <;> exact ⟨rfl, rfl, rfl⟩

/-- The entries of other connections are not touched. -/
theorem mem_undo_of_ne {ledger : Ledger} {connection : CellId} {bond : Bond} (known : bond ∈ ledger)
    (different : bond.connection ≠ connection) : bond ∈ ledger.undo connection :=
  List.mem_map.mpr ⟨bond, known, if_neg different⟩

theorem mem_undo_self {ledger : Ledger} {bond : Bond} (known : bond ∈ ledger) :
    { bond with connected := false } ∈ ledger.undo bond.connection :=
  List.mem_map.mpr ⟨bond, known, if_pos rfl⟩

theorem map_handler_undo (ledger : Ledger) (connection : CellId) :
    (ledger.undo connection).map (·.handler) = ledger.map (·.handler) := by
  unfold undo
  rw [List.map_map]
  refine List.map_congr_left fun bond _ => ?_
  simp only [Function.comp_apply]
  split <;> rfl

theorem undo_of_unlisted {ledger : Ledger} {connection : CellId}
    (unlisted : ∀ bond ∈ ledger, bond.connection ≠ connection) :
    ledger.undo connection = ledger := by
  refine (List.map_congr_left fun bond listed => ?_).trans (List.map_id ledger)
  exact if_neg (unlisted bond listed)

namespace IsOrderly

variable {ledger : Ledger} {size larger : Nat}

theorem mono (orderly : ledger.IsOrderly size) (grown : size ≤ larger) :
    ledger.IsOrderly larger where
  ordered := orderly.ordered
  spans bond listed :=
    ⟨(orderly.spans bond listed).1, Nat.lt_of_lt_of_le (orderly.spans bond listed).2 grown⟩

/-- A connection that is made after all others comes last. -/
theorem connect (orderly : ledger.IsOrderly size) {connection handler : CellId}
    (grown : size ≤ connection) :
    IsOrderly (ledger ++ [⟨connection, handler, size, true⟩]) (connection + 1) where
  ordered := by
    refine List.pairwise_append.mpr ⟨orderly.ordered, List.pairwise_singleton _ _, ?_⟩
    intro earlier listed later last
    rw [List.mem_singleton.mp last]
    exact (orderly.spans earlier listed).2
  spans bond listed := by
    rcases List.mem_append.mp listed with known | last
    · have inside := orderly.spans bond known
      exact ⟨inside.1, Nat.lt_succ_of_lt (Nat.lt_of_lt_of_le inside.2 grown)⟩
    · rw [List.mem_singleton.mp last]
      exact ⟨grown, Nat.lt_succ_self _⟩

theorem undo (orderly : ledger.IsOrderly size) (connection : CellId) :
    (ledger.undo connection).IsOrderly size where
  ordered := by
    refine List.pairwise_map.mpr (orderly.ordered.imp fun {earlier later} before => ?_)
    split <;> split <;> exact before
  spans bond listed := by
    obtain ⟨former, known, same, -, since⟩ := mem_undo listed
    rw [same, since]
    exact orderly.spans former known

/-- Connections follow one another. -/
theorem connections (orderly : ledger.IsOrderly size) :
    ledger.Pairwise fun earlier later => earlier.connection < later.connection := by
  refine orderly.ordered.imp_of_mem fun {earlier later} _ listed before => ?_
  exact Nat.lt_of_lt_of_le before (orderly.spans later listed).1

end IsOrderly

/-- Every entry stays where it is, and one that was marked stays marked. -/
theorem Goes.wanes {ledger later : Ledger} (goes : ledger.Goes later) :
    ∃ kept more, later = kept ++ more ∧ List.Forall₂ Bond.Wanes ledger kept := by
  induction goes with
  | refl => exact ⟨ledger, [], (List.append_nil _).symm, List.forall₂_same.mpr fun _ _ => .refl _⟩
  | tail _ last inductionHypothesis =>
    obtain ⟨kept, more, rfl, wanes⟩ := inductionHypothesis
    cases last with
    | connect connection handler since =>
      exact ⟨kept, _, List.append_assoc _ _ _, wanes⟩
    | undo connection =>
      refine ⟨undo kept connection, undo more connection, List.map_append, ?_⟩
      exact List.forall₂_map_right_iff.mpr (wanes.imp fun bond now early => early.marked connection)

variable {ledger : Ledger} {entry : Bond}

/-- An entry that is marked takes one registration of its handler with it. -/
theorem live_perm_undo (distinct : ledger.Pairwise fun earlier later =>
      earlier.connection < later.connection) (listed : entry ∈ ledger)
    (connected : entry.connected = true) :
    List.Perm ledger.live (entry.handler :: (ledger.undo entry.connection).live) := by
  induction ledger with
  | nil => cases listed
  | cons bond rest inductionHypothesis =>
    obtain ⟨first, others⟩ := List.pairwise_cons.mp distinct
    rw [undo_cons, live_cons, live_cons]
    rcases List.mem_cons.mp listed with rfl | listed
    · have unlisted : ∀ other ∈ rest, other.connection ≠ entry.connection :=
        fun other known => Nat.ne_of_gt (first other known)
      rw [if_pos connected, if_pos rfl, undo_of_unlisted unlisted]
      exact .refl _
    · have different : bond.connection ≠ entry.connection := Nat.ne_of_lt (first entry listed)
      rw [if_neg different]
      split
      · exact (List.Perm.cons _ (inductionHypothesis others listed)).trans (.swap _ _ _)
      · exact inductionHypothesis others listed

/-- Where all handlers are different, the others stay in order. -/
theorem erase_live (distinct : ledger.Pairwise fun earlier later =>
      earlier.connection < later.connection) (listed : entry ∈ ledger)
    (connected : entry.connected = true) (handlers : (ledger.map (·.handler)).Nodup) :
    ledger.live.erase entry.handler = (ledger.undo entry.connection).live := by
  induction ledger with
  | nil => cases listed
  | cons bond rest inductionHypothesis =>
    obtain ⟨first, others⟩ := List.pairwise_cons.mp distinct
    obtain ⟨alone, handlers⟩ := List.nodup_cons.mp handlers
    rw [undo_cons, live_cons, live_cons]
    rcases List.mem_cons.mp listed with rfl | listed
    · have unlisted : ∀ other ∈ rest, other.connection ≠ entry.connection :=
        fun other known => Nat.ne_of_gt (first other known)
      rw [if_pos connected, if_pos rfl, undo_of_unlisted unlisted]
      exact List.erase_cons_head _ _
    · have different : bond.connection ≠ entry.connection := Nat.ne_of_lt (first entry listed)
      have apart : bond.handler ≠ entry.handler :=
        fun same => alone (List.mem_map.mpr ⟨entry, listed, same.symm⟩)
      rw [if_neg different]
      split
      · rw [List.erase_cons_tail (by simpa using apart), inductionHypothesis others listed handlers]
      · exact inductionHypothesis others listed handlers

end Ledger

/-! ### Worlds -/

/-- Marking a connection as undone changes its cell alone. -/
theorem Store.get?_undo {store : Store} {cell other : CellId} {bond : Connection} {contents : Cell}
    (found : (store.undo cell bond).get? other = some contents) :
    (other = cell ∧ contents = .connection { bond with connected := false }) ∨
      (other ≠ cell ∧ store.get? other = some contents) := by
  by_cases here : other = cell
  · subst here
    have inside := Store.size_put store other _ ▸ Store.lt_size_of_get? found
    exact .inl ⟨rfl, Option.some.inj (found.symm.trans (Store.get?_put_self inside))⟩
  · exact .inr ⟨here, (Store.get?_put_of_ne (Ne.symm here)).symm.trans found⟩

/-- The world tallies with the ledger of an event of an object. A connection is in the ledger as it
is in its cell, and as long as the object is there, it has the handlers of the entries that are
connected; in the order of the entries if no two of them share a handler. -/
structure World.Tallies (world : World) (source : CellId) (event : String) (ledger : Ledger) :
    Prop where
  unborn : world.store.cells.size ≤ source → ledger = []
  orderly : ledger.IsOrderly world.store.cells.size
  bonds : ∀ {cell : CellId} {bond : Connection},
    world.store.get? cell = some (.connection bond) → bond.source = .object source →
      bond.event = event → ∃ entry ∈ ledger, entry.connection = cell ∧
        entry.handler = bond.handler ∧ entry.connected = bond.connected
  handlers : ∀ {object : HostObject}, world.store.object? source = some object →
    List.Perm (object.handlersOf event) ledger.live
  inOrder : (ledger.map (·.handler)).Nodup → ∀ {object : HostObject},
    world.store.object? source = some object → object.handlersOf event = ledger.live

/-- The handlers of an event of an object are as they were, or none if it is new, and no connection
of it is new or changed. -/
structure World.KeepsEvent (source : CellId) (event : String) (before after : World) : Prop where
  size_le : before.store.cells.size ≤ after.store.cells.size
  handlers : ∀ {object : HostObject}, after.store.object? source = some object →
    (∃ former, before.store.object? source = some former ∧
      object.handlersOf event = former.handlersOf event) ∨
      (before.store.cells.size ≤ source ∧ object.handlersOf event = [])
  bonds : ∀ {cell : CellId} {bond : Connection},
    after.store.get? cell = some (.connection bond) → bond.source = .object source →
      bond.event = event → before.store.get? cell = some (.connection bond)

/-- Some ledger that went on from the one that tallied before tallies afterwards. -/
def World.Carries (source : CellId) (event : String) (before after : World) : Prop :=
  ∀ ledger, before.Tallies source event ledger →
    ∃ later, ledger.Goes later ∧ after.Tallies source event later

namespace World

variable {world before between after : World} {source cell : CellId} {event : String}
  {ledger : Ledger}

/-! ### What leaves an event alone -/

namespace KeepsEvent

theorem of_keepsTies (ties : before.KeepsTies after) : KeepsEvent source event before after where
  size_le := ties.size_le
  handlers found := (ties.objects found).imp
    (fun ⟨former, known, same⟩ => ⟨former, known, congrFun same event⟩)
    fun ⟨outside, bare⟩ => ⟨outside, bare event⟩
  bonds found _ _ := ties.connections found

theorem of_store (store : after.store = before.store) : KeepsEvent source event before after where
  size_le := Nat.le_of_eq (by rw [store])
  handlers {object} found := .inl ⟨object, store ▸ found, rfl⟩
  bonds found _ _ := store ▸ found

theorem of_changes (changes : Changes before after) : KeepsEvent source event before after :=
  have ties : before.KeepsTies after := changes.related
  .of_keepsTies ties

theorem trans (first : KeepsEvent source event before between)
    (second : KeepsEvent source event between after) : KeepsEvent source event before after where
  size_le := Nat.le_trans first.size_le second.size_le
  handlers found := by
    rcases second.handlers found with ⟨_, known, same⟩ | ⟨outside, bare⟩
    · rw [same]
      exact first.handlers known
    · exact .inr ⟨Nat.le_trans first.size_le outside, bare⟩
  bonds found self same := first.bonds (second.bonds found self same) self same

/-- A connection of another event is made. -/
theorem create {bond : Connection}
    (other : ¬(bond.source = .object source ∧ bond.event = event)) :
    KeepsEvent source event world (world.create (.connection bond)).1 where
  size_le := by
    show _ ≤ (world.store.create _).1.cells.size
    rw [Store.size_create]
    exact Nat.le_succ _
  handlers {object} found := by
    rcases Store.get?_create (Store.object?_eq_some.mp found) with same | ⟨-, made⟩
    · exact .inl ⟨object, Store.object?_eq_some.mpr same, rfl⟩
    · cases made
  bonds found self named := by
    rcases Store.get?_create found with same | ⟨-, made⟩
    · exact same
    · cases made
      exact absurd ⟨self, named⟩ other

/-- A connection of another event is undone. -/
theorem undo {bond : Connection}
    (other : ¬(bond.source = .object source ∧ bond.event = event)) :
    KeepsEvent source event world { world with store := world.store.undo cell bond } where
  size_le := Nat.le_of_eq (Store.size_put _ _ _).symm
  handlers {object} found := by
    rcases Store.get?_put (Store.object?_eq_some.mp found) with same | ⟨-, made⟩
    · exact .inl ⟨object, Store.object?_eq_some.mpr same, rfl⟩
    · cases made
  bonds found self named := by
    rcases Store.get?_put found with same | ⟨-, made⟩
    · exact same
    · cases made
      exact absurd ⟨self, named⟩ other

/-- An object changes, but for this event. -/
theorem put {former object : HostObject} (found : world.store.object? cell = some former)
    (handlers : cell = source → object.handlersOf event = former.handlersOf event) :
    KeepsEvent source event world
      { world with store := world.store.put cell (.object object) } where
  size_le := Nat.le_of_eq (Store.size_put _ _ _).symm
  handlers {now} known := by
    rcases Store.get?_put (Store.object?_eq_some.mp known) with same | ⟨rfl, made⟩
    · exact .inl ⟨now, Store.object?_eq_some.mpr same, rfl⟩
    · cases made
      exact .inl ⟨former, found, handlers rfl⟩
  bonds known _ _ := by
    rcases Store.get?_put known with same | ⟨-, made⟩
    · exact same
    · cases made

/-- Another event is connected to. -/
theorem connect {start attached : World} {object : HostObject} {handler : CellId} {name : String}
    (earlier : KeepsEvent source event before start)
    (found : start.store.object? cell = some object)
    (attaches : attached.store = start.store.put cell (.object (object.attach name handler)))
    (later : KeepsEvent source event attached between) (type : TypeKey)
    (other : ¬(cell = source ∧ name = event)) :
    KeepsEvent source event before (between.create (.connection
      { type, source := .object cell, handler, event := name, connected := true })).1 := by
  have attach : KeepsEvent source event start attached := by
    refine .trans (.put found fun same => ?_) (.of_store attaches)
    rw [HostObject.handlersOf_attach, if_neg fun here => other ⟨same, here.symm⟩]
  refine earlier.trans (attach.trans (later.trans (.create fun same => other ⟨?_, same.2⟩)))
  exact Host.Value.object.inj same.1

end KeepsEvent

namespace Tallies

/-- An event without handlers and connections has an empty ledger. -/
theorem empty
    (bonds : ∀ {cell : CellId} {bond : Connection},
      world.store.get? cell = some (.connection bond) → bond.source = .object source →
        bond.event ≠ event)
    (handlers : ∀ {object : HostObject}, world.store.object? source = some object →
      object.handlersOf event = []) : world.Tallies source event [] where
  unborn _ := rfl
  orderly := ⟨.nil, nofun⟩
  bonds found self named := absurd named (bonds found self)
  handlers found := .of_eq (handlers found)
  inOrder _ := handlers

theorem keepsEvent (tallies : before.Tallies source event ledger)
    (keeps : KeepsEvent source event before after) : after.Tallies source event ledger where
  unborn outside := tallies.unborn (Nat.le_trans keeps.size_le outside)
  orderly := tallies.orderly.mono keeps.size_le
  bonds found self named := tallies.bonds (keeps.bonds found self named) self named
  handlers found := by
    rcases keeps.handlers found with ⟨former, living, same⟩ | ⟨outside, bare⟩
    · rw [same]
      exact tallies.handlers living
    · rw [bare, tallies.unborn outside]
      exact .refl _
  inOrder distinct {_} found := by
    rcases keeps.handlers found with ⟨former, living, same⟩ | ⟨outside, bare⟩
    · rw [same]
      exact tallies.inOrder distinct living
    · rw [bare, tallies.unborn outside]
      rfl

/-! ### Connecting -/

/-- Connecting adds an entry at the end. -/
theorem connect (tallies : before.Tallies source event ledger) {start : World}
    (earlier : KeepsEvent source event before start) {object : HostObject} {handler : CellId}
    {attached : World} (found : start.store.object? source = some object)
    (attaches : attached.store = start.store.put source (.object (object.attach event handler)))
    (later : KeepsEvent source event attached between) (type : TypeKey) :
    (between.create (.connection
      { type, source := .object source, handler, event, connected := true })).1.Tallies source event
      (ledger ++ [⟨between.store.cells.size, handler, before.store.cells.size, true⟩]) := by
  have started := tallies.keepsEvent earlier
  have size : attached.store.cells.size = start.store.cells.size := by
    rw [attaches, Store.size_put]
  have grown : before.store.cells.size ≤ between.store.cells.size :=
    Nat.le_trans earlier.size_le (size ▸ later.size_le)
  have known : source < start.store.cells.size :=
    Store.lt_size_of_get? (Store.object?_eq_some.mp found)
  have inside : source < attached.store.cells.size := size ▸ known
  have last {now : HostObject} (living : (between.store.create (.connection
      { type, source := .object source, handler, event, connected := true })).1.object? source =
        some now) : now.handlersOf event = object.handlersOf event ++ [handler] := by
    rcases Store.get?_create (Store.object?_eq_some.mp living) with same | ⟨-, made⟩
    · rcases later.handlers (Store.object?_eq_some.mpr same) with
        ⟨former, here, same⟩ | ⟨outside, -⟩
      · rw [attaches, Store.object?_eq_some, Store.get?_put_self known] at here
        cases here
        rw [same, HostObject.handlersOf_attach, if_pos rfl]
      · exact absurd inside (Nat.not_lt.mpr outside)
    · cases made
  have live : Ledger.live (ledger ++
      [⟨between.store.cells.size, handler, before.store.cells.size, true⟩]) =
      ledger.live ++ [handler] := Ledger.live_append _ _
  refine ⟨?_, ?_, ?_, ?_, ?_⟩
  · intro outside
    have before : source < between.store.cells.size := Nat.lt_of_lt_of_le inside later.size_le
    refine absurd outside (Nat.not_le.mpr ?_)
    exact (Store.size_create between.store _).symm ▸ Nat.lt_succ_of_lt before
  · show Ledger.IsOrderly _ (between.store.create _).1.cells.size
    rw [Store.size_create]
    exact tallies.orderly.connect grown
  · intro other now known owner name
    rcases Store.get?_create known with same | ⟨rfl, made⟩
    · have former := later.bonds same owner name
      rw [attaches] at former
      rcases Store.get?_put former with former | ⟨-, made⟩
      · obtain ⟨entry, listed, is⟩ := started.bonds former owner name
        exact ⟨entry, List.mem_append_left _ listed, is⟩
      · cases made
    · cases made
      exact ⟨_, List.mem_append_right _ List.mem_cons_self, rfl, rfl, rfl⟩
  · intro now living
    rw [last living, live]
    exact (started.handlers found).append_right _
  · intro distinct now living
    have former : (ledger.map (·.handler)).Nodup :=
      distinct.sublist ((List.sublist_append_left _ _).map _)
    rw [last living, live, started.inOrder former found]

/-! ### Disconnecting -/

/-- A connection of the event that is undone marks its entry. -/
theorem undo (tallies : before.Tallies source event ledger) {bond : Connection}
    (found : before.store.get? cell = some (.connection bond)) (connected : bond.connected = true)
    (self : bond.source = .object source) (named : bond.event = event)
    (size : after.store.cells.size = before.store.cells.size)
    (others : ∀ {other : CellId} {now : Connection},
      after.store.get? other = some (.connection now) →
        (other = cell ∧ now = { bond with connected := false }) ∨
          (other ≠ cell ∧ before.store.get? other = some (.connection now)))
    (handlers : ∀ {now : HostObject}, after.store.object? source = some now →
      ∃ former, before.store.object? source = some former ∧
        now.handlersOf event = (former.handlersOf event).erase bond.handler) :
    after.Tallies source event (ledger.undo cell) := by
  obtain ⟨entry, listed, rfl, held, marked⟩ := tallies.bonds found self named
  have distinct := tallies.orderly.connections
  rw [connected] at marked
  refine ⟨fun outside => ?_, size ▸ tallies.orderly.undo _, ?_, ?_, ?_⟩
  · rw [tallies.unborn (size ▸ outside)]
    rfl
  · intro other now known owner name
    rcases others known with ⟨rfl, rfl⟩ | ⟨different, former⟩
    · exact ⟨_, Ledger.mem_undo_self listed, rfl, held, rfl⟩
    · obtain ⟨twin, known, same, is⟩ := tallies.bonds former owner name
      exact ⟨twin, Ledger.mem_undo_of_ne known (same ▸ different), same, is⟩
  · intro now living
    obtain ⟨former, known, erased⟩ := handlers living
    have perm := (tallies.handlers known).trans (Ledger.live_perm_undo distinct listed marked)
    rw [erased, ← held]
    exact (perm.erase entry.handler).trans (.of_eq (List.erase_cons_head _ _))
  · intro different now living
    rw [Ledger.map_handler_undo] at different
    obtain ⟨former, known, erased⟩ := handlers living
    rw [erased, ← held, tallies.inOrder different known,
      Ledger.erase_live distinct listed marked different]

end Tallies

/-! ### What running code does -/

namespace Carries

theorem of_keepsEvent (keeps : KeepsEvent source event before after) :
    Carries source event before after :=
  fun ledger tallies => ⟨ledger, .refl, tallies.keepsEvent keeps⟩

theorem of_keepsTies (ties : before.KeepsTies after) : Carries source event before after :=
  .of_keepsEvent (.of_keepsTies ties)

theorem of_store (store : after.store = before.store) : Carries source event before after :=
  .of_keepsEvent (.of_store store)

end Carries

end World

instance {source : CellId} {event : String} : RunRelation (World.Carries source event) where
  refl _ := .of_store rfl
  trans first second ledger tallies := by
    obtain ⟨middle, early, tallied⟩ := first ledger tallies
    obtain ⟨later, late, done⟩ := second middle tallied
    exact ⟨later, early.trans late, done⟩
  held _ _ := .of_store rfl

namespace World

variable {before after : World} {source cell : CellId} {event : String} {ledger : Ledger}

/-- Connecting adds an entry to the ledger of the event that is connected to. -/
theorem Connects.carries (connects : before.Connects after) :
    Carries source event before after := by
  cases connects with
  | @connect start between use cell handler object type earlier _ _ _ _ found later =>
    by_cases here : cell = source ∧ use.slot.implementation.name = event
    · obtain ⟨rfl, rfl⟩ := here
      exact fun ledger tallies => ⟨_, .single (.connect _ _ _ _),
        tallies.connect (.of_changes earlier) found rfl (.of_changes later) type⟩
    · exact .of_keepsEvent
        (.connect (.of_changes earlier) found rfl (.of_changes later) type here)

namespace Disconnects

variable {bond : Connection}

/-- Disconnecting marks the entry of the connection in the ledger of its event. -/
theorem tallies (disconnects : Disconnects cell bond before after)
    (self : bond.source = .object source) (tallies : before.Tallies source bond.event ledger) :
    after.Tallies source bond.event (ledger.undo cell) := by
  cases disconnects with
  | @detach owner object found connected owned living =>
    cases self.symm.trans owned
    have former : before.store.object? source = some object := by
      rcases Store.get?_undo (Store.object?_eq_some.mp living) with ⟨-, made⟩ | ⟨-, same⟩
      · cases made
      · exact Store.object?_eq_some.mpr same
    refine tallies.undo found connected self rfl ?_ (fun known => ?_) fun known => ?_
    · exact (Store.size_put _ _ _).trans (Store.size_put _ _ _)
    · rcases Store.get?_put known with same | ⟨-, made⟩
      · exact (Store.get?_undo same).imp_left fun is => ⟨is.1, Cell.connection.inj is.2⟩
      · cases made
    · have inside := Store.lt_size_of_get? (Store.object?_eq_some.mp living)
      cases (Store.get?_put_self inside).symm.trans (Store.object?_eq_some.mp known)
      exact ⟨object, former, by rw [HostObject.handlersOf_detach, if_pos rfl]⟩
  | gone found connected gone =>
    refine tallies.undo found connected self rfl (Store.size_put _ _ _) (fun known => ?_)
      fun known => ?_
    · exact (Store.get?_undo known).imp_left fun is => ⟨is.1, Cell.connection.inj is.2⟩
    · exact nomatch (gone source self).symm.trans known

/-- Disconnecting leaves all other events alone. -/
theorem keepsEvent (disconnects : Disconnects cell bond before after)
    (other : ¬(bond.source = .object source ∧ bond.event = event)) :
    KeepsEvent source event before after := by
  cases disconnects with
  | @detach owner object found connected self living =>
    refine .trans (.undo other) (.put living fun same => ?_)
    rw [HostObject.handlersOf_detach, if_neg fun named => other ⟨same ▸ self, named.symm⟩]
  | gone => exact .undo other

/-- Disconnecting leaves the connection marked as undone. -/
theorem marks (disconnects : Disconnects cell bond before after) :
    after.store.get? cell = some (.connection { bond with connected := false }) := by
  have undone (found : before.store.get? cell = some (.connection bond)) :
      (before.store.undo cell bond).get? cell =
        some (.connection { bond with connected := false }) :=
    Store.get?_put_self (Store.lt_size_of_get? found)
  cases disconnects with
  | @detach owner object found _ _ living =>
    have different : owner ≠ cell := by
      rintro rfl
      exact nomatch (undone found).symm.trans (Store.object?_eq_some.mp living)
    exact (Store.get?_put_of_ne different).trans (undone found)
  | gone found => exact undone found

theorem carries (disconnects : Disconnects cell bond before after) :
    Carries source event before after := by
  by_cases here : bond.source = .object source ∧ bond.event = event
  · obtain ⟨self, rfl⟩ := here
    exact fun ledger tallied =>
      ⟨_, .single (.undo ledger cell), disconnects.tallies self tallied⟩
  · exact .of_keepsEvent (disconnects.keepsEvent here)

end Disconnects

end World

end ScriptBridge
