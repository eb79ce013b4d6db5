/-
This file proves what a write to a field of a struct behind a proxy changes. The proxy
holds the struct by value; the write converts what it is given to the type of the field
and puts it in its place, so that reading the field shows what was converted, and every
field with another place shows what it showed before. Fields that one type declares have
different places. The fields of a base are numbered for themselves: there the place may
be shared, and then the write shows in both.
-/

import ScriptBridge.Proofs.CallForms
import ScriptBridge.Proofs.FieldPlaces
import ScriptBridge.Proofs.Receivers

namespace ScriptBridge

open Host Run Bridge Binding

/-! ### Structs behind proxies -/

namespace World

/-- The proxy of an engine that is not disposed holds a struct by value and has no view. -/
structure HoldsStruct (world : World) (proxy : CellId) (key : TypeKey) (fields : List Value) :
    Prop where
  enabled : (world.engine (world.store.proxy proxy).engine).isDisposed = false
  boxed : (world.store.proxy proxy).target = .boxed (.struct key fields)
  plain : (world.store.proxy proxy).view = none

/-- What an engine's script sees through a proxy of a struct. -/
def structScene (world : World) (engine : EngineId) (proxy : CellId) (key : TypeKey)
    (fields : List Value) : Scene :=
  sceneIn world engine proxy (.member (.struct key fields) key)

end World

variable {calls : Calls} {engine : EngineId} {world after : World} {proxy : CellId}
  {key : TypeKey} {fields : List Value} {name other : String} {slot otherSlot : Slot}
  {place otherPlace : Nat} {value : Script.Value} {host : Value}

theorem World.HoldsStruct.leads (holds : world.HoldsStruct proxy key fields) :
    world.targetOf proxy = .ok (.struct key fields) := by
  unfold World.targetOf
  dsimp only
  rw [holds.enabled, holds.boxed]
  rfl

theorem World.HoldsStruct.leadsTo (holds : world.HoldsStruct proxy key fields) :
    world.LeadsTo proxy (.struct key fields) key where
  target := holds.leads
  typed := rfl
  unasked := by
    unfold dynamicIn?
    cases world.store.proxy? proxy <;> rfl

/-- The store is that before with cells that conversions made and a field of the struct in the proxy
replaced; the engines are those before. -/
structure World.Replaces (before after : World) (proxy : CellId) (place : Nat) (host : Value) :
    Prop where
  grown : ∃ between, before.store.Extends between ∧ after.store = between.setField proxy place host
  engines : after.engines = before.engines

namespace Binding

/-- The first slot that script sees under a name is that of a struct field at a place. -/
structure Scene.SeesField (scene : Scene) (name : String) (slot : Slot) (place : Nat) : Prop where
  found : ∃ rest, (scene.lookup name).visible = slot :: rest
  data : slot.declaration.isData = true
  offers : slot.implementation.implementation = .structField place

/-- The slot of a field that script sees through a proxy of a struct without a view is one of those
of its type, and it has the name. -/
theorem Scene.SeesField.mem_instanceSlots (holds : world.HoldsStruct proxy key fields)
    (sees : (world.structScene engine proxy key fields).SeesField name slot place) :
    slot ∈ instanceSlots world.store.types key none ∧ slot.declaration.scriptName = name := by
  obtain ⟨rest, found⟩ := sees.found
  have member : slot ∈ ((world.structScene engine proxy key fields).lookup name).visible := by
    rw [found]
    exact List.mem_cons_self
  obtain ⟨among, selected⟩ := List.mem_filter.mp member
  refine ⟨?_, beq_iff_eq.mp (Bool.and_eq_true_iff.mp selected).2⟩
  rw [← holds.plain]
  exact among

/-- Shows a host value as the field of a slot. Besides that it looks at the proxy and notes that the
field is used. -/
def showField (calls : Calls) (scene : Scene) (slot : Slot) (place : Nat) (host : Value) :
    ScriptRun Script.Value :=
  keeping (scene.subject.self.cells ++ [scene.proxy]) do
    note (.looked scene)
    note (.used ⟨scene, slot, .readField place⟩)
    toScript calls scene.engine host slot.declaration.type

/-- Does reading a name in a world show a host value as the field of a slot? -/
def Scene.ReadsAs (scene : Scene) (world : World) (name : String) (slot : Slot) (place : Nat)
    (host : Value) : Prop :=
  ∀ calls, (getMember calls scene.engine scene.proxy name).outcome world =
    (showField calls scene slot place host).outcome world

/-! ### Reading -/

/-- Data that a slot of a struct field offers are read from the place of the field. -/
theorem readSlot_of_offers {scene : Scene} (data : slot.declaration.isData = true)
    (offers : slot.implementation.implementation = .structField place)
    (self : scene.subject.self = .struct key fields) :
    readSlot calls engine scene slot = scope (do
      note (.used ⟨scene, slot, .readField place⟩)
      toScript calls engine (fields[place]?.getD .null) slot.declaration.type) := by
  have reads : readData calls engine scene slot = (do
      note (.used ⟨scene, slot, .readField place⟩)
      toScript calls engine (fields[place]?.getD .null) slot.declaration.type) := by
    unfold readData
    rw [offers, self]
  unfold readSlot
  rw [← reads]
  rcases Member.kind_of_isData data with kind | kind <;> rw [kind]

/-- Reading a name of a struct that a proxy holds looks at the proxy and reads the first slot of the
name. -/
theorem outcome_getMember_of_holdsStruct (calls : Calls) (engine : EngineId)
    (holds : world.HoldsStruct proxy key fields) {rest : List Slot}
    (found : ((world.structScene engine proxy key fields).lookup name).visible = slot :: rest) :
    (getMember calls engine proxy name).outcome world =
      (keeping ((Value.struct key fields).cells ++ [proxy]) (do
        note (.looked (world.structScene engine proxy key fields))
        readSlot calls engine (world.structScene engine proxy key fields) slot)).outcome world := by
  let cells := (Value.struct key fields).cells
  let ready := (world.holding [proxy]).holding cells
  have leads : ready.LeadsTo proxy (.struct key fields) key :=
    ⟨holds.leads, rfl, holds.leadsTo.unasked⟩
  have inUse : ready.holding cells = ready :=
    World.holding_eq_self fun _ member => World.mem_held_holding.mpr (.inl member)
  have looked : (look engine proxy).outcome ready =
      (.ok (world.structScene engine proxy key fields), { ready with
        history := .looked (world.structScene engine proxy key fields) :: world.history }) := by
    rw [outcome_look_of_leads leads engine, inUse]
    rfl
  have both : world.holding (cells ++ [proxy]) = ready := by
    unfold ready World.holding
    rw [List.foldr_append]
  have first : (world.holding [proxy]).targetOf proxy = .ok (.struct key fields) := holds.leads
  unfold getMember getStatic
  rw [outcome_keeping, outcome_scope, both, outcome_bind_of_ok (outcome_holdCells _ _),
    outcome_bind_of_ok (outcome_target_of_ok first),
    outcome_bind_of_ok (outcome_offerGet leads name), outcome_bind_of_ok looked, found]
  rfl

/-- A field reads as the value at its place. -/
theorem readsAs_of_seesField (holds : world.HoldsStruct proxy key fields)
    (sees : (world.structScene engine proxy key fields).SeesField name slot place) :
    (world.structScene engine proxy key fields).ReadsAs world name slot place
      (fields[place]?.getD .null) := by
  intro calls
  obtain ⟨rest, found⟩ := sees.found
  have read := outcome_getMember_of_holdsStruct calls engine holds found
  rw [readSlot_of_offers sees.data sees.offers rfl] at read
  exact read

/-! ### Writing -/

/-- What a write of a field that has a value has come to: the value converts to the type of the
field, there is a place for it, and it is put there. -/
theorem writeSlot_eq_ok {scene : Scene}
    (offers : slot.implementation.implementation = .structField place)
    (boxed : (world.store.proxy scene.proxy).target = .boxed (.struct key fields))
    (writes : (writeSlot calls engine scene slot name value).outcome world = (.ok (), after)) :
    ∃ converted left, (toHost engine value slot.declaration.type).outcome world =
        (.ok converted, left) ∧ place < fields.length ∧
      after.store = left.store.setField scene.proxy place converted.value ∧
      after.engines = left.engines := by
  unfold writeSlot at writes
  obtain ⟨converted, between, converts, writes⟩ := outcome_bind_eq_ok.mp writes
  obtain ⟨left, given, rfl⟩ := outcome_held_eq_ok.mp converts
  have converts := outcome_mapFailure_eq_ok.mp given
  have grows := toHost_grows engine value slot.declaration.type world
  rw [converts] at grows
  have kept : (left.store.proxy scene.proxy).target = .boxed (.struct key fields) := by
    rw [grows.extends.proxy]
    exact boxed
  rw [offers] at writes
  dsimp only at writes
  unfold writeField at writes
  rw [outcome_bind_of_ok (outcome_readStore _ _), World.holding_store, kept] at writes
  dsimp only at writes
  split at writes
  · next inside =>
    cases writes
    refine ⟨converted, left, converts, inside, ?_, rfl⟩
    unfold Store.setField
    rw [kept]
    rfl
  · cases writes

/-- A write to a name that has a value has come to a write to the first slot of the name. -/
theorem setSlot_eq_ok {scene : Scene} {rest : List Slot}
    (found : (scene.lookup name).visible = slot :: rest)
    (writes : (setSlot calls engine scene name value).outcome world = (.ok (), after)) :
    (writeSlot calls engine scene slot name value).outcome world = (.ok (), after) := by
  unfold setSlot at writes
  rw [found] at writes
  dsimp only at writes
  split at writes
  · cases writes
  · split at writes
    · cases writes
    · exact writes

/-- Writing a name of a struct that a proxy holds looks at the proxy and writes the name among its
members. -/
theorem outcome_setMember_of_holdsStruct (calls : Calls) (engine : EngineId) (name : String)
    (value : Script.Value) (holds : world.HoldsStruct proxy key fields) :
    ∃ ready, world.Glances ready ∧
      (setMember calls engine proxy name value).outcome world = world.endScope
        ((setSlot calls engine (world.structScene engine proxy key fields) name value).outcome
          ready) := by
  let ready := (world.holding (proxy :: value.cells)).holding (Value.struct key fields).cells
  have first : (world.holding (proxy :: value.cells)).targetOf proxy =
      .ok (.struct key fields) := holds.leads
  have leads : ready.LeadsTo proxy (.struct key fields) key :=
    ⟨holds.leads, rfl, holds.leadsTo.unasked⟩
  have unasked : (offerSet engine proxy (.struct key fields) name value).outcome ready =
      (.ok false, ready) := by
    unfold offerSet offer
    rw [outcome_bind_of_ok (outcome_dynamicOf?_of_leads leads _)]
    rfl
  have glances : world.Glances ready :=
    RunRelation.trans (RunRelation.held world _) (RunRelation.held _ ready.held)
  obtain ⟨seen, looked⟩ : ∃ seen, (look engine proxy).outcome ready =
      (.ok (world.structScene engine proxy key fields), seen) :=
    ⟨_, outcome_look_of_leads leads engine⟩
  have kept := look_glances engine proxy ready
  rw [looked] at kept
  refine ⟨seen, RunRelation.trans glances kept, ?_⟩
  unfold setMember setStatic
  rw [outcome_scope, outcome_bind_of_ok (outcome_holdCells _ _),
    outcome_bind_of_ok (outcome_target_of_ok first), outcome_bind_of_ok unasked,
    if_neg Bool.false_ne_true, outcome_bind_of_ok looked]
  rfl

/-- What a write of a member of a struct that a proxy holds has come to, for the name of a field. -/
theorem setMember_eq_ok (holds : world.HoldsStruct proxy key fields)
    (sees : (world.structScene engine proxy key fields).SeesField name slot place)
    (writes : (setMember calls engine proxy name value).outcome world = (.ok (), after)) :
    ∃ ready converted left, world.Glances ready ∧
      (toHost engine value slot.declaration.type).outcome ready = (.ok converted, left) ∧
      place < fields.length ∧ world.Replaces after proxy place converted.value := by
  obtain ⟨rest, found⟩ := sees.found
  obtain ⟨ready, glances, written⟩ :=
    outcome_setMember_of_holdsStruct calls engine name value holds
  rw [written] at writes
  rcases ran : (setSlot calls engine (world.structScene engine proxy key fields) name
    value).outcome ready with ⟨halt | result, last⟩
  · rw [ran] at writes
    cases writes
  · rw [ran] at writes
    cases writes
    have boxed : (ready.store.proxy proxy).target = .boxed (.struct key fields) := by
      rw [glances.store]
      exact holds.boxed
    obtain ⟨converted, left, converts, inside, store, engines⟩ :=
      writeSlot_eq_ok sees.offers boxed (setSlot_eq_ok found ran)
    have grows := toHost_grows engine value slot.declaration.type ready
    rw [converts] at grows
    refine ⟨ready, converted, left, glances, converts, inside, ⟨left.store, ?_, store⟩, ?_⟩
    · rw [← glances.store]
      exact grows.extends
    · exact engines.trans (grows.engines.trans glances.engines)

end Binding

/-! ### After a write -/

namespace World.Replaces

/-- The proxy holds the struct with the field replaced, and is otherwise as it was. -/
theorem store_proxy (replaces : world.Replaces after proxy place host)
    (boxed : (world.store.proxy proxy).target = .boxed (.struct key fields)) :
    after.store.proxy proxy = { world.store.proxy proxy with
      target := .boxed (.struct key (fields.set place host)) } := by
  obtain ⟨between, grown, store⟩ := replaces.grown
  have kept : between.proxy proxy = world.store.proxy proxy := grown.proxy proxy
  rw [← kept] at boxed ⊢
  have inside := Store.lt_size_of_get? (Store.get?_of_boxed boxed)
  rw [store]
  unfold Store.setField
  rw [boxed]
  show Store.proxy (between.put proxy (.proxy _)) proxy = _
  rw [Store.proxy, Store.get?_put_self inside]

theorem types (replaces : world.Replaces after proxy place host) :
    after.store.types = world.store.types := by
  obtain ⟨between, grown, store⟩ := replaces.grown
  rw [store, ← grown.types]
  unfold Store.setField
  split
  · rfl
  · rfl

theorem engine_eq (replaces : world.Replaces after proxy place host) (engine : EngineId) :
    after.engine engine = world.engine engine := by
  unfold World.engine
  rw [replaces.engines]

theorem holdsStruct (replaces : world.Replaces after proxy place host)
    (holds : world.HoldsStruct proxy key fields) :
    after.HoldsStruct proxy key (fields.set place host) := by
  have now := replaces.store_proxy holds.boxed
  refine ⟨?_, ?_, ?_⟩
  · rw [replaces.engine_eq, now]
    exact holds.enabled
  · rw [now]
  · rw [now]
    exact holds.plain

/-- What script sees through the proxy is what it saw before, but for the value behind it. -/
theorem structScene_eq (replaces : world.Replaces after proxy place host)
    (holds : world.HoldsStruct proxy key fields) (engine : EngineId) :
    after.structScene engine proxy key (fields.set place host) =
      { world.structScene engine proxy key fields with
        subject := .member (.struct key (fields.set place host)) key } := by
  unfold World.structScene sceneIn
  rw [replaces.store_proxy holds.boxed, replaces.engine_eq, replaces.types]

/-- Script sees the fields that it saw. -/
theorem seesField (replaces : world.Replaces after proxy place host)
    (holds : world.HoldsStruct proxy key fields)
    (sees : (world.structScene engine proxy key fields).SeesField other otherSlot otherPlace) :
    (after.structScene engine proxy key (fields.set place host)).SeesField other otherSlot
      otherPlace := by
  rw [replaces.structScene_eq holds]
  exact ⟨sees.found, sees.data, sees.offers⟩

end World.Replaces

/-- A write to a field of a struct that a proxy holds, in a workspace whose explicit implementations
are for types before, puts the converted value in the place of the field: it reads as that, and each
other field reads as what it read as before unless it has the very place. A field with the very
place is declared by another type. -/
theorem writes_change_one_field {definitions : List TypeDefinition}
    (back : LookBack Builtin.types.size definitions)
    (types : world.store.types = TypeTable.ofDefinitions definitions)
    (holds : world.HoldsStruct proxy key fields)
    (sees : (world.structScene engine proxy key fields).SeesField name slot place)
    (writes : (setMember calls engine proxy name value).outcome world = (.ok (), after)) :
    ∃ ready converted left, world.Glances ready ∧
      (toHost engine value slot.declaration.type).outcome ready = (.ok converted, left) ∧
      after.HoldsStruct proxy key (fields.set place converted.value) ∧
      (after.structScene engine proxy key (fields.set place converted.value)).ReadsAs after
        name slot place converted.value ∧
      ∀ other otherSlot otherPlace, other ≠ name →
        (world.structScene engine proxy key fields).SeesField other otherSlot otherPlace →
        (world.structScene engine proxy key fields).ReadsAs world other otherSlot otherPlace
          (fields[otherPlace]?.getD .null) ∧
        (after.structScene engine proxy key (fields.set place converted.value)).ReadsAs after
          other otherSlot otherPlace
          (if otherPlace = place then converted.value else fields[otherPlace]?.getD .null) ∧
        (otherSlot.declaration.declaring = slot.declaration.declaring → otherPlace ≠ place) := by
  obtain ⟨ready, converted, left, glances, converts, inside, replaces⟩ :=
    setMember_eq_ok holds sees writes
  have holdsAfter := replaces.holdsStruct holds
  have here : ((fields.set place converted.value)[place]?.getD .null) = converted.value := by
    rw [List.getElem?_set_self inside]
    rfl
  refine ⟨ready, converted, left, glances, converts, holdsAfter, ?_, ?_⟩
  · have reads := readsAs_of_seesField holdsAfter (replaces.seesField holds sees)
    rwa [here] at reads
  · intro other otherSlot otherPlace differs seesOther
    refine ⟨readsAs_of_seesField holds seesOther, ?_, ?_⟩
    · have reads := readsAs_of_seesField holdsAfter (replaces.seesField holds seesOther)
      split
      · next same =>
        rw [same, here] at reads
        rw [same]
        exact reads
      · next apart =>
        rwa [List.getElem?_set_ne (Ne.symm apart)] at reads
    · intro same
      have separates : world.store.types.SeparatesFields := by
        rw [types]
        exact TypeTable.ofDefinitions_separates back
      obtain ⟨member, named⟩ := sees.mem_instanceSlots holds
      obtain ⟨memberOther, namedOther⟩ := seesOther.mem_instanceSlots holds
      refine place_ne_of_declaring_eq separates memberOther member same ?_ seesOther.offers
        sees.offers
      rw [named, namedOther]
      exact differs

/-! ### A field over one of a base -/

/-- A struct with a field X, and one that has it as base and fields Z and W. -/
def Host.pixelTypes : List TypeDefinition := [
  .declared { name := "Point", kind := .struct, members := [.structField "X" (.numeric .int32)] },
  .declared { name := "Pixel", kind := .struct, base := some 2, members := [
    .structField "Z" (.numeric .int32), .structField "W" (.numeric .int32)] }]

/-- The engine has a proxy of a pixel as it starts. -/
def World.withPixel : World where
  store := {
    types := .ofDefinitions pixelTypes
    cells := #[some (.proxy
      ⟨0, .boxed (.struct 3 [.integer .zero32, .integer .zero32]), none, .none⟩)] }
  engines := #[Engine.new "main" {} none]

/-- The number that script reads from a field of the pixel. -/
def World.pixelField? (world : World) (name : String) : Option Int :=
  match ((getMember (Script.startWithin 1) 0 0 name).outcome world).1 with
  | .ok (.int value) => some value.toInt
  | _ => none

theorem initial_pixel : World.withPixel.store.types.initial (.named 3) =
    .struct 3 [.integer .zero32, .integer .zero32] := by
  set table := World.withPixel.store.types
  have kind : (table.type 3).kind = .struct := rfl
  have size : table.size = 4 := rfl
  obtain ⟨first, second, fields, firstType, secondType⟩ : ∃ first second,
      (table.type 3).structFields = [first, second] ∧
        first.type = .numeric .int32 ∧ second.type = .numeric .int32 := ⟨_, _, rfl, rfl, rfl⟩
  unfold TypeTable.initial
  rw [TypeTable.defaultValue, kind, size]
  simp only [fields, TypeTable.defaultFields, TypeTable.defaultValue, firstType, secondType]
  rfl

/-- Writing one field of a pixel as it starts changes the field that the base declares. -/
theorem written_field_shows_in_base :
    let written := (setMember (Script.startWithin 1) 0 0 "Z" (.int 5)).outcome .withPixel
    (World.withPixel.store.proxy 0).target =
        .boxed (World.withPixel.store.types.initial (.named 3)) ∧
      written.1.toBool = true ∧
      World.withPixel.pixelField? "X" = some 0 ∧ written.2.pixelField? "X" = some 5 ∧
      World.withPixel.pixelField? "W" = some 0 ∧ written.2.pixelField? "W" = some 0 := by
  refine ⟨?_, ?_⟩
  · rw [initial_pixel]
    rfl
  · decide +kernel

/-- A pixel has the number that was written to its field Z, and the other it had before. -/
theorem writes_change_one_field_of_pixel : ∃ slot after written,
    LookBack Builtin.types.size pixelTypes ∧
      World.withPixel.store.types = TypeTable.ofDefinitions pixelTypes ∧
      World.withPixel.HoldsStruct 0 3 [.integer .zero32, .integer .zero32] ∧
      (World.withPixel.structScene 0 0 3 [.integer .zero32, .integer .zero32]).SeesField "Z"
        slot 0 ∧
      (setMember (Script.startWithin 1) 0 0 "Z" (.int 5)).outcome .withPixel = (.ok (), after) ∧
      after.HoldsStruct 0 3 [written, .integer .zero32] ∧
      (after.structScene 0 0 3 [written, .integer .zero32]).ReadsAs after "Z" slot 0 written := by
  let fields : List Value := [.integer .zero32, .integer .zero32]
  let seen := ((World.withPixel.structScene 0 0 3 fields).lookup "Z").visible
  have back : LookBack Builtin.types.size pixelTypes :=
    ⟨List.forall_mem_nil _, List.forall_mem_nil _, trivial⟩
  have types : World.withPixel.store.types = TypeTable.ofDefinitions pixelTypes := rfl
  have holds : World.withPixel.HoldsStruct 0 3 fields := ⟨rfl, rfl, rfl⟩
  have data : seen.map (·.declaration.isData) = [true] := by decide +kernel
  have places : seen.map (·.implementation.place?) = [some 0] := by decide +kernel
  obtain ⟨slot, found, dataOfSlot⟩ := List.map_eq_singleton_iff.mp data
  rw [found] at places
  have sees : (World.withPixel.structScene 0 0 3 fields).SeesField "Z" slot 0 :=
    ⟨⟨[], found⟩, dataOfSlot, Member.structField_of_place? (List.head_eq_of_cons_eq places)⟩
  have succeeds : ((setMember (Script.startWithin 1) 0 0 "Z" (.int 5)).outcome
    .withPixel).1.toBool = true := by decide +kernel
  rcases writes : (setMember (Script.startWithin 1) 0 0 "Z" (.int 5)).outcome .withPixel with
    ⟨_ | done, after⟩
  · rw [writes] at succeeds
    cases succeeds
  · obtain ⟨_, converted, _, _, _, holdsAfter, reads, _⟩ :=
      writes_change_one_field back types holds sees writes
    exact ⟨slot, after, converted.value, back, types, holds, sees, rfl, holdsAfter, reads⟩

end ScriptBridge
