/-
This file holds what it takes for annotations to be out of a proxy's sight. The value
of the proxy offers, through the proxy's view, what is declared where annotations are
not free to differ. From worlds that differ in such annotations only, such a proxy
shows scenes that are alike.
-/

import ScriptBridge.Proofs.Facing

namespace ScriptBridge

open Host Binding Bridge Run

/-! ### Proxies -/

/-- What values of the type offer through the view is declared where annotations are not free to
differ, and host code carries it out. -/
structure Annotated.Spares (free : Annotated) (table : TypeTable) (key : TypeKey)
    (view : Option TypeKey) : Prop where
  hides : free.Hides table key view
  hosted : ∀ slot ∈ instanceSlots table key view, ∀ number,
    slot.implementation.implementation ≠ .intrinsic number

/-- The proxy stands for a value that offers nothing that is free to differ. A value with an
identity is held by reference, and its type is asked for while it lives. -/
structure Proxy.Spares (free : Annotated) (store : Store) (proxy : Proxy) : Prop where
  ofValue : ∀ type, proxy.value ≠ .type type
  weak : ∀ {target}, proxy.value.identity? = some target →
    target < store.cells.size ∧ proxy.target = .reference proxy.value
  offers : ∀ {key}, store.typeOf proxy.value = .named key →
    (∀ target, proxy.value.identity? = some target → store.isLive target = true) →
      free.Spares store.types key proxy.view

/-- Annotations that are free to differ are out of the proxy's sight while it lives. -/
structure World.Spares (free : Annotated) (world : World) (cell : CellId) : Prop where
  inside : cell < world.store.cells.size
  proxy : ∀ {proxy}, world.store.get? cell = some (.proxy proxy) → proxy.Spares free world.store

section

variable {free : Annotated} {world left right : World} {cell : CellId}

/-! ### Scenes -/

/-- A value offers scenes that are alike where what its type offers is not free to differ. -/
theorem sceneIn_alike (alike : left.Alike free right) (engine : EngineId) {value : Value}
    (ofValue : ∀ type, value ≠ .type type)
    (offers : ∀ {key}, left.store.typeOf value = .named key →
      free.Spares left.store.types key (left.store.proxy cell).view) :
    (sceneIn left engine cell (subjectIn left.store value)).Alike
      (sceneIn right engine cell (subjectIn left.store value)) := by
  have view : (left.store.proxy cell).view = (right.store.proxy cell).view :=
    alike.observe (fun world => (world.store.proxy cell).view) fun _ => rfl
  have bare (subject : Subject) : (sceneIn left engine cell subject).bare =
      (sceneIn right engine cell subject).bare :=
    congrArg (fun world => sceneIn world engine cell subject) alike.bare
  rw [subjectIn_eq ofValue]
  cases typed : left.store.typeOf value with
  | named key =>
    refine ⟨bare _, nofun, ?_, (offers typed).hosted⟩
    have same := instanceSlots_blur alike.types alike.keeps (offers typed).hides
    show _ = (instanceSlots right.store.types key (right.store.proxy cell).view).map Slot.blur
    rw [← view]
    exact same
  | _ => exact ⟨bare _, nofun, rfl, fun slot member => absurd member List.not_mem_nil⟩

/-- Worlds that differ in annotations out of a proxy's sight show alike what it stands for. -/
theorem World.Spares.faces (spares : left.Spares free cell) (alike : left.Alike free right)
    (engine : EngineId) : World.Faces engine cell Scene.Alike left right where
  inside := spares.inside
  weak found := (spares.proxy found).weak
  scenes found living := by
    have proxy := spares.proxy found
    have view : (left.store.proxy cell).view = _ := congrArg Proxy.view (Store.proxy_of_get? found)
    exact sceneIn_alike alike engine proxy.ofValue fun typed => view ▸ proxy.offers typed living

end

end ScriptBridge
