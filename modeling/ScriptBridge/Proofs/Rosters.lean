/-
This file keeps a roster of the handlers of an event, wherever they are kept, and a
ledger of their registrations. A connection has a registration, which is in place as
long as the connection reports that it is connected; a connection that does not, and
has its registration in place all the same, is stuck.
-/

import ScriptBridge.Proofs.EventLedger
import ScriptBridge.Proofs.Resting

namespace ScriptBridge

open Host Run Bridge Binding

/-! ### Rosters -/

theorem Store.size_undo (store : Store) (cell : CellId) (bond : Connection) :
    (store.undo cell bond).cells.size = store.cells.size :=
  Store.size_put store cell _

/-- The handlers of an event of a source: the cell that keeps them, and how they are read off what
it holds. Connections keep none. -/
structure Roster where
  source : Value
  event : String
  home : CellId
  read : Cell → List CellId
  read_connection : ∀ bond, read (.connection bond) = []

namespace Roster

/-- The handlers, as long as the cell that keeps them is there. -/
def handlers? (roster : Roster) (store : Store) : Option (List CellId) :=
  (store.get? roster.home).map roster.read

/-- Is the bond one of the event? -/
def Binds (roster : Roster) (bond : Connection) : Prop :=
  bond.source = roster.source ∧ bond.event = roster.event

/-- The cell that keeps the handlers has been made. -/
abbrev IsBorn (roster : Roster) (store : Store) : Prop := roster.home < store.cells.size

/-- The handlers are changed in one way, and no connection of the event is new or changed. -/
structure Becomes (roster : Roster) (change : List CellId → List CellId) (before after : Store) :
    Prop where
  size_le : before.cells.size ≤ after.cells.size
  handlers : ∀ {now}, roster.handlers? after = some now →
    ∃ former, roster.handlers? before = some former ∧ now = change former
  bonds : ∀ {cell : CellId} {bond : Connection}, after.get? cell = some (.connection bond) →
    roster.Binds bond → before.get? cell = some (.connection bond)

/-- The handlers are as they were, and no connection of the event is new or changed. -/
abbrev Stays (roster : Roster) : Store → Store → Prop := roster.Becomes id

/-- A handler more is registered, for a new connection of the event. -/
structure Gains (roster : Roster) (connection handler : CellId) (before after : Store) : Prop where
  fresh : before.cells.size ≤ connection
  inside : connection < after.cells.size
  handlers : ∀ {now}, roster.handlers? after = some now →
    ∃ former, roster.handlers? before = some former ∧ now = former ++ [handler]
  bonds : ∀ {cell : CellId} {bond : Connection}, after.get? cell = some (.connection bond) →
    roster.Binds bond → before.get? cell = some (.connection bond) ∨
      (cell = connection ∧ bond.handler = handler ∧ bond.connected = true)

variable {roster : Roster} {change other : List CellId → List CellId}
variable {before between after store : Store} {cell connection handler : CellId} {bond : Connection}

namespace Becomes

theorem refl (store : Store) : roster.Stays store store :=
  ⟨Nat.le_refl _, fun {now} found => ⟨now, found, rfl⟩, fun found _ => found⟩

theorem trans (first : roster.Becomes change before between)
    (second : roster.Becomes other between after) :
    roster.Becomes (other ∘ change) before after where
  size_le := Nat.le_trans first.size_le second.size_le
  handlers found := by
    obtain ⟨_, middle, rfl⟩ := second.handlers found
    obtain ⟨former, early, rfl⟩ := first.handlers middle
    exact ⟨former, early, rfl⟩
  bonds found binds := first.bonds (second.bonds found binds) binds

/-- What changed before the event stayed as it was has changed. -/
theorem stays (becomes : roster.Becomes change before between)
    (stays : roster.Stays between after) : roster.Becomes change before after :=
  becomes.trans stays

theorem born (becomes : roster.Becomes change before after) (born : roster.IsBorn before) :
    roster.IsBorn after :=
  Nat.lt_of_lt_of_le born becomes.size_le

/-- Where the world rests, the event stays as it is. -/
theorem of_rests {world left : World} (rests : world.Rests left) (changes : Changes world left)
    (born : roster.IsBorn world.store) : roster.Stays world.store left.store where
  size_le := rests.wanes.store.size_le
  handlers found := by
    obtain ⟨contents, living, rfl⟩ := Option.map_eq_some_iff.mp found
    have stood := rests.wanes.store.stays born living
    exact ⟨_, Option.map_eq_some_iff.mpr ⟨contents, stood, rfl⟩, rfl⟩
  bonds found _ :=
    have ties : world.KeepsTies left := changes.related
    ties.connections found

end Becomes

/-- A new cell does not change what keeps the handlers. -/
theorem handlers?_create {contents : Cell} (born : roster.IsBorn store) :
    roster.handlers? (store.create contents).1 = roster.handlers? store := by
  unfold handlers?
  rw [Store.get?_create_of_lt born]

/-- Marking a connection as undone does not change what keeps the handlers. -/
theorem handlers?_undo (found : store.get? cell = some (.connection bond)) :
    roster.handlers? (store.undo cell bond) = roster.handlers? store := by
  unfold handlers?
  by_cases here : cell = roster.home
  · rw [← here, found, Store.undo, Store.get?_put_self (Store.lt_size_of_get? found)]
    exact congrArg some ((roster.read_connection _).trans (roster.read_connection bond).symm)
  · rw [Store.undo, Store.get?_put_of_ne here]

/-- A connection of another event is made. -/
theorem stays_create (born : roster.IsBorn store) (other : ¬roster.Binds bond) :
    roster.Stays store (store.create (.connection bond)).1 where
  size_le := by
    rw [Store.size_create]
    exact Nat.le_succ _
  handlers {now} found := ⟨now, handlers?_create born ▸ found, rfl⟩
  bonds found binds := by
    rcases Store.get?_create found with same | ⟨-, made⟩
    · exact same
    · cases made
      exact absurd binds other

/-- A connection of another event is marked as undone. -/
theorem stays_undo (found : store.get? cell = some (.connection bond))
    (other : ¬roster.Binds bond) : roster.Stays store (store.undo cell bond) where
  size_le := Nat.le_of_eq (Store.size_undo store cell bond).symm
  handlers {now} same := ⟨now, handlers?_undo found ▸ same, rfl⟩
  bonds known binds := by
    rcases Store.get?_undo known with ⟨-, made⟩ | ⟨-, same⟩
    · cases made
      exact absurd binds other
    · exact same

namespace Gains

/-- A connection of the event is made after its handler was added. -/
theorem create {attached : Store} (adds : roster.Becomes (· ++ [bond.handler]) before attached)
    (stays : roster.Stays attached between) (born : roster.IsBorn before)
    (connected : bond.connected = true) :
    roster.Gains between.cells.size bond.handler before (between.create (.connection bond)).1 where
  fresh := Nat.le_trans adds.size_le stays.size_le
  inside := Nat.lt_of_lt_of_eq (Nat.lt_succ_self _) (Store.size_create _ _).symm
  handlers found := (adds.stays stays).handlers
    ((handlers?_create (stays.born (adds.born born))).symm.trans found)
  bonds found binds := by
    rcases Store.get?_create found with same | ⟨here, made⟩
    · exact .inl ((adds.stays stays).bonds same binds)
    · cases made
      exact .inr ⟨here, rfl, connected⟩

theorem stays (gains : roster.Gains connection handler before between)
    (stays : roster.Stays between after) : roster.Gains connection handler before after where
  fresh := gains.fresh
  inside := Nat.lt_of_lt_of_le gains.inside stays.size_le
  handlers found := by
    obtain ⟨_, middle, rfl⟩ := stays.handlers found
    exact gains.handlers middle
  bonds found binds := gains.bonds (stays.bonds found binds) binds

end Gains

/-! ### Registrations -/

/-- What keeps the handlers tallies with a ledger of registrations. The handlers are those of the
registrations in place. A connection has a registration, which is in place as long as the connection
reports that it is connected, and no longer unless the connection is stuck. -/
structure Tallies (roster : Roster) (store : Store) (ledger : Ledger) (stuck : List CellId) :
    Prop where
  born : roster.IsBorn store
  orderly : ledger.IsOrderly store.cells.size
  bonds : ∀ {cell : CellId} {bond : Connection}, store.get? cell = some (.connection bond) →
    roster.Binds bond → ∃ entry ∈ ledger, entry.connection = cell ∧ entry.handler = bond.handler ∧
      (bond.connected = true → entry.connected = true) ∧
      (entry.connected = true → bond.connected = true ∨ cell ∈ stuck)
  handlers : ∀ {now}, roster.handlers? store = some now → now.Perm ledger.live

namespace Tallies

variable {ledger : Ledger} {stuck : List CellId}

theorem stays (tallies : roster.Tallies before ledger stuck) (stays : roster.Stays before after) :
    roster.Tallies after ledger stuck where
  born := stays.born tallies.born
  orderly := tallies.orderly.mono stays.size_le
  bonds found binds := tallies.bonds (stays.bonds found binds) binds
  handlers found := by
    obtain ⟨_, former, rfl⟩ := stays.handlers found
    exact tallies.handlers former

/-- A registration more comes last. -/
theorem gains (tallies : roster.Tallies before ledger stuck)
    (gains : roster.Gains connection handler before after) :
    roster.Tallies after (ledger ++ [⟨connection, handler, before.cells.size, true⟩]) stuck where
  born := Nat.lt_of_lt_of_le tallies.born
    (Nat.le_trans gains.fresh (Nat.le_of_lt gains.inside))
  orderly := (tallies.orderly.connect gains.fresh).mono gains.inside
  bonds found binds := by
    rcases gains.bonds found binds with same | ⟨here, held, connected⟩
    · obtain ⟨entry, listed, is⟩ := tallies.bonds same binds
      exact ⟨entry, List.mem_append_left _ listed, is⟩
    · exact ⟨_, List.mem_append_right _ List.mem_cons_self, here.symm, held.symm,
        fun _ => rfl, fun _ => .inl connected⟩
  handlers found := by
    obtain ⟨_, former, rfl⟩ := gains.handlers found
    rw [Ledger.live_append]
    exact (tallies.handlers former).append_right _

/-- Connections may be taken for stuck that are not. -/
theorem sticks (tallies : roster.Tallies store ledger stuck) (connection : CellId) :
    roster.Tallies store ledger (connection :: stuck) where
  born := tallies.born
  orderly := tallies.orderly
  bonds found binds := by
    obtain ⟨entry, listed, is, held, reports, lasts⟩ := tallies.bonds found binds
    exact ⟨entry, listed, is, held, reports,
      fun connected => (lasts connected).imp_right (List.mem_cons_of_mem _)⟩
  handlers := tallies.handlers

/-- A connection whose handler could not be removed is stuck. -/
theorem stick (tallies : roster.Tallies store ledger stuck)
    (found : store.get? cell = some (.connection bond))
    (stays : roster.Stays (store.undo cell bond) after) :
    roster.Tallies after ledger (cell :: stuck) where
  born := stays.born (Nat.lt_of_lt_of_eq tallies.born (Store.size_undo store cell bond).symm)
  orderly := tallies.orderly.mono (Store.size_undo store cell bond ▸ stays.size_le)
  bonds known binds := by
    rcases Store.get?_undo (stays.bonds known binds) with ⟨rfl, made⟩ | ⟨-, same⟩
    · cases made
      obtain ⟨entry, listed, is, held, -⟩ := tallies.bonds found binds
      exact ⟨entry, listed, is, held, nofun, fun _ => .inr List.mem_cons_self⟩
    · exact (tallies.sticks cell).bonds same binds
  handlers known := by
    obtain ⟨_, former, rfl⟩ := stays.handlers known
    exact tallies.handlers (handlers?_undo found ▸ former)

/-- A registration is undone with its connection. -/
theorem undo (tallies : roster.Tallies store ledger stuck)
    (found : store.get? cell = some (.connection bond)) (binds : roster.Binds bond)
    (connected : bond.connected = true)
    (erases : roster.Becomes (·.erase bond.handler) (store.undo cell bond) after) :
    roster.Tallies after (ledger.undo cell) stuck where
  born := erases.born (Nat.lt_of_lt_of_eq tallies.born (Store.size_undo store cell bond).symm)
  orderly := (tallies.orderly.undo cell).mono (Store.size_undo store cell bond ▸ erases.size_le)
  bonds known binds := by
    rcases Store.get?_undo (erases.bonds known binds) with ⟨rfl, made⟩ | ⟨different, same⟩
    · cases made
      obtain ⟨entry, listed, rfl, held, -⟩ := tallies.bonds found binds
      exact ⟨_, Ledger.mem_undo_self listed, rfl, held, nofun, nofun⟩
    · obtain ⟨entry, listed, rfl, is⟩ := tallies.bonds same binds
      exact ⟨entry, Ledger.mem_undo_of_ne listed different, rfl, is⟩
  handlers known := by
    obtain ⟨_, former, rfl⟩ := erases.handlers known
    obtain ⟨entry, listed, rfl, held, reports, -⟩ := tallies.bonds found binds
    have perm := (tallies.handlers (handlers?_undo found ▸ former)).trans
      (Ledger.live_perm_undo tallies.orderly.connections listed (reports connected))
    rw [← held]
    exact (perm.erase entry.handler).trans (.of_eq (List.erase_cons_head _ _))

end Tallies

end Roster

end ScriptBridge
