/-
This file says what proxies are made of. A value that is boxed is one that is compared by
value, and one that is proxied by reference can be held weakly; a proxy that is gone stands
for nothing. From one world to a later one the targets are kept where every proxy that has
come besides stands for such a value. A change is plain where it makes no private proxy and
keeps the targets.
-/

import ScriptBridge.Proofs.Confinement

namespace ScriptBridge

/-! ### Targets -/

/-- Is the target one that proxies are made of? -/
def ProxyTarget.isApt : ProxyTarget → Bool
  | .boxed value => value.isValueLike
  | .reference value => value.hasWeakForm || value.isNullish
  | .type _ => true

theorem ProxyTarget.isApt_of_hasWeakForm {value : Host.Value} (weak : value.hasWeakForm = true) :
    (ProxyTarget.reference value).isApt = true :=
  Bool.or_eq_true_iff.mpr (.inl weak)

/-- If the cell holds a proxy, does that stand for what proxies are made of? -/
def Cell.isApt : Cell → Bool
  | .proxy contents => contents.target.isApt
  | _ => true

/-- Every proxy stands for what proxies are made of. -/
def World.HasAptProxies (world : World) : Prop :=
  ∀ {cell : CellId} {proxy : Proxy}, world.store.proxy? cell = some proxy →
    proxy.target.isApt = true

/-- A proxy stands for what it stood for, or for what proxies are made of. -/
structure World.KeepsTargets (before after : World) : Prop where
  proxies : ∀ {cell : CellId} {now : Proxy}, after.store.proxy? cell = some now →
    now.target.isApt = true ∨
      ∃ was, before.store.proxy? cell = some was ∧ was.target = now.target

namespace World.KeepsTargets

variable {before between after world : World}

theorem hasAptProxies (keeps : before.KeepsTargets after) (apt : before.HasAptProxies) :
    after.HasAptProxies := by
  intro cell now found
  rcases keeps.proxies found with made | ⟨was, known, same⟩
  · exact made
  · rw [← same]
    exact apt known

theorem trans (first : before.KeepsTargets between) (second : between.KeepsTargets after) :
    before.KeepsTargets after where
  proxies found := by
    rcases second.proxies found with made | ⟨was, known, same⟩
    · exact .inl made
    · rw [← same]
      exact first.proxies known

/-- What is in a cell was there before, or is apt. -/
theorem of_cells (cells : ∀ {cell contents}, after.store.get? cell = some contents →
    before.store.get? cell = some contents ∨ contents.isApt = true) :
    before.KeepsTargets after where
  proxies {_ now} found := by
    rcases cells (Store.proxy?_eq_some.mp found) with known | apt
    · exact .inr ⟨now, Store.proxy?_eq_some.mpr known, rfl⟩
    · exact .inl apt

theorem of_store (store : after.store = before.store) : before.KeepsTargets after := by
  refine .of_cells fun found => .inl ?_
  rwa [store] at found

theorem refl (world : World) : world.KeepsTargets world := .of_store rfl

/-- Something apt is made. -/
theorem create (world : World) {contents : Cell} (apt : contents.isApt = true) :
    world.KeepsTargets (world.create contents).1 := by
  refine .of_cells fun found => ?_
  rcases Store.get?_create found with same | ⟨-, rfl⟩
  · exact .inl same
  · exact .inr apt

/-- Something apt comes into a cell. -/
theorem of_put {cell : CellId} {contents : Cell} (apt : contents.isApt = true)
    (store : after.store = world.store.put cell contents) : world.KeepsTargets after := by
  refine .of_cells fun found => ?_
  rw [store] at found
  rcases Store.get?_put found with same | ⟨-, rfl⟩
  · exact .inl same
  · exact .inr apt

end World.KeepsTargets

/-! ### Plain changes -/

/-- Is the proxy none that is private, and does it stand for what proxies are made of? -/
def Proxy.isPlain (proxy : Proxy) : Bool := !proxy.isPrivate && proxy.target.isApt

/-- Is the cell open, and does a proxy in it stand for what proxies are made of? -/
def Cell.isPlain (contents : Cell) : Bool := contents.isOpen && contents.isApt

theorem Proxy.isPlain_of_isApt {proxy : Proxy} (visible : proxy.isPrivate = false)
    (apt : proxy.target.isApt = true) : proxy.isPlain = true := by
  unfold isPlain
  rw [visible, apt]
  rfl

/-- What is made from a proxy is plain where that is. -/
theorem Proxy.Conveys.isPlain {former made : Proxy} (conveys : former.Conveys made) :
    made.isPlain = former.isPlain := by
  unfold Proxy.isPlain
  rw [conveys.isPrivate, conveys.target]

/-- A proxy that is not plain is one that there is. -/
theorem Store.proxy?_of_isPlain {store : Store} {cell : CellId}
    (special : (store.proxy cell).isPlain = false) :
    store.proxy? cell = some (store.proxy cell) := by
  unfold proxy? proxy at *
  split at special
  · rfl
  · cases special

/-- No private proxy is made, and each that is made stands for what proxies are made of. -/
structure World.KeepsPlain (before after : World) : Prop where
  confines : before.Confines after
  targets : before.KeepsTargets after

namespace World.KeepsPlain

variable {before between after world : World}

theorem trans (first : before.KeepsPlain between) (second : between.KeepsPlain after) :
    before.KeepsPlain after :=
  ⟨first.confines.trans second.confines, first.targets.trans second.targets⟩

theorem of_same (engines : after.engines = before.engines) (store : after.store = before.store) :
    before.KeepsPlain after :=
  ⟨.of_same engines store, .of_store store⟩

/-- A change of engines alone is plain where it confines access. -/
theorem of_store (store : after.store = before.store) (confines : before.Confines after) :
    before.KeepsPlain after :=
  ⟨confines, .of_store store⟩

theorem create (world : World) {contents : Cell} (plain : contents.isPlain = true) :
    world.KeepsPlain (world.create contents).1 :=
  have both := Bool.and_eq_true_iff.mp plain
  ⟨world.confinesTo_create both.1, .create world both.2⟩

theorem of_put {cell : CellId} {contents : Cell} (plain : contents.isPlain = true)
    (engines : after.engines = world.engines)
    (store : after.store = world.store.put cell contents) : world.KeepsPlain after :=
  have both := Bool.and_eq_true_iff.mp plain
  ⟨.of_put both.1 engines store, .of_put both.2 store⟩

theorem append (world : World) (cell : CellId) (item : Script.Value) :
    world.KeepsPlain { world with store := world.store.modify cell (·.append item) } where
  confines := world.confinesTo_append cell item
  targets := by
    refine .of_cells fun found => ?_
    rcases Store.get?_append found with same | ⟨items, rfl⟩
    · exact .inl same
    · exact .inr rfl

/-- What a proxy stands for is replaced by what proxies are made of. -/
theorem of_retarget {cell : CellId} {former : Proxy} {target : ProxyTarget}
    (found : world.store.proxy? cell = some former) (apt : target.isApt = true)
    (engines : after.engines = world.engines)
    (store : after.store = world.store.put cell (.proxy { former with target })) :
    world.KeepsPlain after :=
  have put : (Cell.proxy { former with target }).isApt = true := apt
  ⟨.of_retarget found engines store, .of_put put store⟩

end World.KeepsPlain

end ScriptBridge
