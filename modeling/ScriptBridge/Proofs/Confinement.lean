/-
This file holds what it takes for private access to stay where it is. A private proxy
is one through which script reaches private members. From one world to a later one
access is confined where private proxies come only from a given kind: every other one
was there before, no handle has come to hide a proxy, and what has come into the
records of engines leads to a private proxy only from private flags.
-/

import ScriptBridge.Proofs.Cells

namespace ScriptBridge

/-! ### Private proxies -/

namespace ItemFlags

/-- Which proxy an item gets depends on whether its access is private. -/
theorem contains_identity (flags : ItemFlags) :
    flags.identity.contains .privateAccess = flags.contains .privateAccess := by
  unfold identity difference contains
  rw [UInt8.and_assoc]
  rfl

theorem contains_none : none.contains .privateAccess = false := by decide

theorem contains_union (flags : ItemFlags) :
    (flags.union .directAccess).contains .privateAccess = flags.contains .privateAccess := by
  unfold union contains
  have same : (flags.bits ||| 2) &&& 1 = flags.bits &&& 1 := by
    refine UInt8.toBitVec_inj.mp ?_
    rw [UInt8.toBitVec_and, UInt8.toBitVec_or, BitVec.and_or_distrib_right]
    exact BitVec.or_zero
  exact congrArg (· == 1) same

end ItemFlags

/-- Does script reach private members through the proxy? -/
def Proxy.isPrivate (proxy : Proxy) : Bool := proxy.flags.contains .privateAccess

/-- The proxies are the same but for what they stand for. -/
structure Proxy.Resembles (proxy other : Proxy) : Prop where
  engine : proxy.engine = other.engine
  view : proxy.view = other.view
  flags : proxy.flags = other.flags

namespace Proxy.Resembles

variable {first second third : Proxy}

theorem refl (proxy : Proxy) : proxy.Resembles proxy := ⟨rfl, rfl, rfl⟩

theorem trans (left : first.Resembles second) (right : second.Resembles third) :
    first.Resembles third where
  engine := left.engine.trans right.engine
  view := left.view.trans right.view
  flags := left.flags.trans right.flags

theorem isPrivate (resembles : first.Resembles second) : first.isPrivate = second.isPrivate :=
  congrArg (ItemFlags.contains · .privateAccess) resembles.flags

end Proxy.Resembles

/-- The proxy may be made from the other: for an engine that adopts it, or without the dynamic
capability of what it stands for. -/
inductive Proxy.Conveys (former : Proxy) : Proxy → Prop
  | adopted (engine : EngineId) (view : Option Host.TypeKey) :
      former.Conveys ⟨engine, former.target, view, former.flags⟩
  | withoutDynamic (engine : EngineId) (view : Option Host.TypeKey) :
      former.Conveys ⟨engine, former.target, view, former.flags.union .directAccess⟩

theorem Proxy.Conveys.target {former made : Proxy} (conveys : former.Conveys made) :
    made.target = former.target := by
  cases conveys <;> rfl

/-- What is made from a proxy is private where that is. -/
theorem Proxy.Conveys.isPrivate {former made : Proxy} (conveys : former.Conveys made) :
    made.isPrivate = former.isPrivate := by
  cases conveys with
  | adopted => rfl
  | withoutDynamic => exact ItemFlags.contains_union former.flags

/-- Does the cell hold no private proxy, and hide no proxy behind a handle? -/
def Cell.isOpen : Cell → Bool
  | .proxy contents => !contents.isPrivate
  | .handle (.proxy _) => false
  | _ => true

namespace Store

/-- A private proxy is one that there is. -/
theorem proxy?_of_isPrivate {store : Store} {cell : CellId}
    (hidden : (store.proxy cell).isPrivate = true) :
    store.proxy? cell = some (store.proxy cell) := by
  unfold proxy? proxy at *
  split at hidden
  · rfl
  · cases hidden

theorem handle?_eq_some {store : Store} {cell : CellId} {value : Script.Value} :
    store.handle? cell = some value ↔ store.get? cell = some (.handle value) := by
  unfold handle?
  split
  · next found => rw [found, Option.some.injEq, Option.some.injEq, Cell.handle.injEq]
  · next other => exact ⟨nofun, fun found => absurd found (other value)⟩

/-- A cell that is there may be found under the flags: it holds no private proxy unless they are
private. -/
def Honors (store : Store) (mark : ItemFlags × CellId) : Prop :=
  mark.2 < store.cells.size ∧ (mark.1.contains .privateAccess = false →
    ∀ proxy, store.proxy? mark.2 = some proxy → proxy.isPrivate = false)

end Store

/-- The cells that the record of an engine's proxies has entries of, and the flags that they are
found under. -/
def ProxyCache.marks (cache : ProxyCache) : List (ItemFlags × CellId) :=
  cache.references.map (fun entry => (entry.1.flags, entry.2)) ++
    cache.handles.map fun entry => (entry.1.flags, entry.2)

/-! ### Worlds that confine access -/

namespace World

/-- No handle hides a proxy, and the records find no private proxy but under private flags. -/
structure IsConfined (world : World) : Prop where
  handles : ∀ {cell : CellId} {inner : CellId}, world.store.handle? cell ≠ some (.proxy inner)
  marks : ∀ engine, ∀ mark ∈ (world.engine engine).cache.marks, world.store.Honors mark

/-- From one world to the other, private proxies are only made of the kind; every other one was in
its cell before. -/
structure ConfinesTo (made : Proxy → Prop) (before after : World) : Prop where
  size_le : before.store.cells.size ≤ after.store.cells.size
  proxies : ∀ {cell : CellId} {now : Proxy}, after.store.proxy? cell = some now →
    now.isPrivate = true →
      (∃ was, before.store.proxy? cell = some was ∧ now.Resembles was) ∨
        (before.store.cells.size ≤ cell ∧ ∃ born, made born ∧ now.Resembles born)
  handles : ∀ {cell inner : CellId}, after.store.handle? cell = some (.proxy inner) →
    before.store.handle? cell = some (.proxy inner)
  marks : ∀ engine, ∀ mark ∈ (after.engine engine).cache.marks,
    mark ∈ (before.engine engine).cache.marks ∨ after.store.Honors mark

/-- No private proxy is made. -/
abbrev Confines : World → World → Prop := ConfinesTo fun _ => False

namespace ConfinesTo

variable {made wider : Proxy → Prop} {before between after : World}

/-- What was no private proxy has become none. -/
theorem isPrivate (confines : before.ConfinesTo made after) {cell : CellId}
    (inside : cell < before.store.cells.size)
    (plain : ∀ proxy, before.store.proxy? cell = some proxy → proxy.isPrivate = false)
    {now : Proxy} (found : after.store.proxy? cell = some now) : now.isPrivate = false := by
  rw [Bool.eq_false_iff]
  intro hidden
  rcases confines.proxies found hidden with ⟨was, known, alike⟩ | ⟨outside, -⟩
  · rw [alike.isPrivate, plain was known] at hidden
    cases hidden
  · exact absurd inside (Nat.not_lt_of_le outside)

/-- What was found rightly under flags still is. -/
theorem honors (confines : before.ConfinesTo made after) {mark : ItemFlags × CellId}
    (honors : before.store.Honors mark) : after.store.Honors mark :=
  ⟨Nat.lt_of_lt_of_le honors.1 confines.size_le,
    fun plain _ found => confines.isPrivate honors.1 (honors.2 plain) found⟩

/-- A world that confines access goes on to. -/
theorem isConfined (confines : before.ConfinesTo made after) (confined : before.IsConfined) :
    after.IsConfined where
  handles found := confined.handles (confines.handles found)
  marks engine mark listed := by
    rcases confines.marks engine mark listed with known | honors
    · exact confines.honors (confined.marks engine mark known)
    · exact honors

theorem trans (first : before.ConfinesTo made between) (second : between.ConfinesTo made after) :
    before.ConfinesTo made after where
  size_le := Nat.le_trans first.size_le second.size_le
  proxies found hidden := by
    rcases second.proxies found hidden with ⟨was, known, alike⟩ | ⟨outside, born, is, alike⟩
    · rw [alike.isPrivate] at hidden
      rcases first.proxies known hidden with ⟨former, known, like⟩ | ⟨outside, born, is, like⟩
      · exact .inl ⟨former, known, alike.trans like⟩
      · exact .inr ⟨outside, born, is, alike.trans like⟩
    · exact .inr ⟨Nat.le_trans first.size_le outside, born, is, alike⟩
  handles found := first.handles (second.handles found)
  marks engine mark listed := by
    rcases second.marks engine mark listed with known | honors
    · exact (first.marks engine mark known).imp_right second.honors
    · exact .inr honors

theorem mono (confines : before.ConfinesTo made after)
    (wide : ∀ proxy, made proxy → wider proxy) : before.ConfinesTo wider after where
  size_le := confines.size_le
  proxies found hidden := (confines.proxies found hidden).imp_right
    fun ⟨outside, born, is, alike⟩ => ⟨outside, born, wide born is, alike⟩
  handles := confines.handles
  marks := confines.marks

/-- Where no private proxy is made, none of the kind is. -/
theorem of_confines (confines : before.Confines after) : before.ConfinesTo made after :=
  confines.mono fun _ => False.elim

/-- Where what is made is not private, no private proxy is made. -/
theorem of_public (confines : before.ConfinesTo made after)
    (plain : ∀ proxy, made proxy → proxy.isPrivate = false) : before.Confines after where
  size_le := confines.size_le
  proxies found hidden := by
    refine (confines.proxies found hidden).imp_right ?_
    rintro ⟨-, born, is, alike⟩
    rw [alike.isPrivate, plain born is] at hidden
    cases hidden
  handles := confines.handles
  marks := confines.marks

/-! ### Changes that confine access -/

/-- A change of cells alone: what is in one now was there before, or is open, or is a proxy of the
kind in a new one. -/
theorem of_cells (engines : after.engines = before.engines)
    (size_le : before.store.cells.size ≤ after.store.cells.size)
    (cells : ∀ {cell contents}, after.store.get? cell = some contents →
      before.store.get? cell = some contents ∨ contents.isOpen = true ∨
        (before.store.cells.size ≤ cell ∧ ∃ proxy, contents = .proxy proxy ∧ made proxy)) :
    before.ConfinesTo made after where
  size_le := size_le
  proxies {cell now} found hidden := by
    rcases cells (Store.proxy?_eq_some.mp found) with known | plain | ⟨outside, proxy, ⟨⟩, is⟩
    · exact .inl ⟨now, Store.proxy?_eq_some.mpr known, .refl now⟩
    · rw [show (Cell.proxy now).isOpen = !now.isPrivate from rfl, hidden] at plain
      cases plain
    · exact .inr ⟨outside, now, is, .refl now⟩
  handles found := by
    rcases cells (Store.handle?_eq_some.mp found) with known | plain | ⟨-, proxy, other, -⟩
    · exact Store.handle?_eq_some.mpr known
    · cases plain
    · cases other
  marks engine mark listed := by
    unfold World.engine at listed ⊢
    rw [engines] at listed
    exact .inl listed

/-- A change of the engines alone: what their records have come to find, they find rightly. -/
theorem of_store (store : after.store = before.store)
    (marks : ∀ engine, ∀ mark ∈ (after.engine engine).cache.marks,
      mark ∈ (before.engine engine).cache.marks ∨ after.store.Honors mark) :
    before.ConfinesTo made after where
  size_le := Nat.le_of_eq (congrArg (·.cells.size) store.symm)
  proxies {_ now} found _ := by
    rw [store] at found
    exact .inl ⟨now, found, .refl now⟩
  handles found := by
    rwa [store] at found
  marks := marks

theorem of_same (engines : after.engines = before.engines) (store : after.store = before.store) :
    before.ConfinesTo made after := by
  refine .of_store store fun engine mark listed => .inl ?_
  unfold World.engine at listed ⊢
  rwa [engines] at listed

theorem refl (world : World) : world.ConfinesTo made world := .of_same rfl rfl

end ConfinesTo

variable {made : Proxy → Prop}

theorem size_le_create (world : World) (contents : Cell) :
    world.store.cells.size ≤ (world.create contents).1.store.cells.size :=
  Nat.le_trans (Nat.le_succ _) (Nat.le_of_eq (Store.size_create world.store contents).symm)

/-- Something open is made. -/
theorem confinesTo_create (world : World) {contents : Cell} (plain : contents.isOpen = true) :
    world.ConfinesTo made (world.create contents).1 := by
  refine .of_cells rfl (world.size_le_create contents) fun found => ?_
  rcases Store.get?_create found with same | ⟨-, rfl⟩
  · exact .inl same
  · exact .inr (.inl plain)

/-- A proxy of the kind is made. -/
theorem confinesTo_make (world : World) {proxy : Proxy} (is : made proxy) :
    world.ConfinesTo made (world.create (.proxy proxy)).1 := by
  refine .of_cells rfl (world.size_le_create _) fun found => ?_
  rcases Store.get?_create found with same | ⟨rfl, rfl⟩
  · exact .inl same
  · exact .inr (.inr ⟨Nat.le_refl _, proxy, rfl, is⟩)

/-- Something open comes into a cell. -/
theorem ConfinesTo.of_put {world after : World} {cell : CellId} {contents : Cell}
    (plain : contents.isOpen = true) (engines : after.engines = world.engines)
    (store : after.store = world.store.put cell contents) : world.ConfinesTo made after := by
  have size := Store.size_put world.store cell contents
  refine .of_cells engines (Nat.le_of_eq (store ▸ size.symm)) fun found => ?_
  rw [store] at found
  rcases Store.get?_put found with same | ⟨-, rfl⟩
  · exact .inl same
  · exact .inr (.inl plain)

/-- An item comes to the end of a script array. -/
theorem confinesTo_append (world : World) (cell : CellId) (item : Script.Value) :
    world.ConfinesTo made { world with store := world.store.modify cell (·.append item) } := by
  have size := Store.size_modify world.store cell (·.append item)
  refine .of_cells rfl (Nat.le_of_eq size.symm) fun found => ?_
  rcases Store.get?_append found with same | ⟨items, rfl⟩
  · exact .inl same
  · exact .inr (.inl rfl)

/-- What a proxy stands for is replaced. -/
theorem ConfinesTo.of_retarget {world after : World} {cell : CellId} {former : Proxy}
    {target : ProxyTarget} (found : world.store.proxy? cell = some former)
    (engines : after.engines = world.engines)
    (store : after.store = world.store.put cell (.proxy { former with target })) :
    world.ConfinesTo made after where
  size_le := Nat.le_of_eq (by rw [store, Store.size_put])
  proxies {other now} known _ := by
    rw [store, Store.proxy?_eq_some] at known
    rcases Store.get?_put known with same | ⟨rfl, made⟩
    · exact .inl ⟨now, Store.proxy?_eq_some.mpr same, .refl now⟩
    · cases made
      exact .inl ⟨former, found, rfl, rfl, rfl⟩
  handles {other inner} known := by
    rw [store, Store.handle?_eq_some] at known
    rcases Store.get?_put known with same | ⟨-, made⟩
    · exact Store.handle?_eq_some.mpr same
    · cases made
  marks engine mark listed := by
    unfold World.engine at listed ⊢
    rw [engines] at listed
    exact .inl listed

end World

end ScriptBridge
