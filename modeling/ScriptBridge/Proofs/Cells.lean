/-
This file reads cells back from a store after it has changed, and follows which
cells have a name: the namings of a store are those of its living cells, and a
cell that goes takes its own along.
-/

import Mathlib.Data.List.Basic
import ScriptBridge.World

namespace ScriptBridge

/-! ### Named values -/

namespace Named

variable {Value : Type}

theorem get?_cons (entry : String × Value) (rest : Named Value) (name : String) :
    Named.get? (entry :: rest) name = if entry.1 = name then some entry.2 else rest.get? name := by
  unfold get?
  rw [List.find?_cons]
  by_cases same : entry.1 = name
  · rw [if_pos same, beq_iff_eq.mpr same]
    rfl
  · rw [if_neg same, beq_eq_false_iff_ne.mpr same]

theorem get?_append (first second : Named Value) (name : String) :
    Named.get? (first ++ second) name = (first.get? name).or (second.get? name) := by
  unfold get?
  rw [List.find?_append, Option.map_or]

theorem get?_map_set (entries : Named Value) (name other : String) (value : Value) :
    Named.get? (entries.map fun entry => if entry.1 == name then (name, value) else entry) other =
      if other = name then (entries.get? name).map fun _ => value else entries.get? other := by
  induction entries with
  | nil =>
    split
    · rfl
    · rfl
  | cons entry rest inductionHypothesis =>
    rw [List.map_cons, get?_cons, inductionHypothesis, get?_cons, get?_cons]
    by_cases same : entry.1 = name
    · rw [if_pos (beq_iff_eq.mpr same), if_pos same]
      by_cases asked : other = name
      · rw [if_pos asked.symm, if_pos asked]
        rfl
      · rw [if_neg (Ne.symm asked), if_neg asked, if_neg asked, same, if_neg (Ne.symm asked)]
    · have left : (if entry.1 == name then (name, value) else entry) = entry :=
        if_neg (by rwa [beq_iff_eq])
      rw [left, if_neg same]
      by_cases asked : other = name
      · rw [if_pos asked, if_pos asked, asked, if_neg same]
      · rw [if_neg asked, if_neg asked]

/-- Only the name that is set has another value. -/
theorem get?_put (entries : Named Value) (name other : String) (value : Value) :
    (entries.put name value).get? other = if other = name then some value else entries.get? other := by
  unfold put
  by_cases known : entries.has name = true
  · rw [if_pos known, get?_map_set]
    obtain ⟨former, found⟩ := Option.isSome_iff_exists.mp known
    rw [found]
    rfl
  · rw [if_neg known, get?_append]
    unfold has at known
    rw [Bool.not_eq_true, Option.isSome_eq_false_iff, Option.isNone_iff_eq_none] at known
    by_cases asked : other = name
    · rw [if_pos asked, asked, known, Option.none_or, get?_cons, if_pos rfl]
    · rw [if_neg asked, get?_cons, if_neg (Ne.symm asked)]
      exact Option.or_none

/-- What changes values but no names changes the value that is found. -/
theorem get?_map_of_named {change : String × Value → String × Value}
    (named : ∀ entry, (change entry).1 = entry.1) (entries : Named Value) (name : String) :
    Named.get? (entries.map change) name =
      (entries.find? fun entry => entry.1 == name).map fun entry => (change entry).2 := by
  have same : ((fun entry : String × Value => entry.1 == name) ∘ change) =
      fun entry => entry.1 == name := by
    funext entry
    exact congrArg (· == name) (named entry)
  unfold get?
  rw [List.find?_map, same, Option.map_map]
  rfl

theorem get?_erase (entries : Named Value) (name other : String) :
    (entries.erase name).get? other = if other = name then none else entries.get? other := by
  induction entries with
  | nil => exact (ite_self _).symm
  | cons entry rest inductionHypothesis =>
    have rest : Named.get? (rest.filter fun entry => entry.1 != name) other =
        if other = name then none else Named.get? rest other := inductionHypothesis
    unfold erase
    rw [List.filter_cons]
    by_cases erased : entry.1 = name
    · rw [if_neg (by rw [erased, bne_self_eq_false]; exact Bool.false_ne_true), rest, get?_cons]
      by_cases asked : other = name
      · rw [if_pos asked, if_pos asked]
      · rw [if_neg asked, if_neg asked, if_neg fun same => asked (same.symm.trans erased)]
    · rw [if_pos (bne_iff_ne.mpr erased), get?_cons, get?_cons, rest]
      by_cases asked : other = name
      · rw [if_pos asked, if_pos asked, if_neg (asked ▸ erased)]
      · rw [if_neg asked, if_neg asked]

end Named

namespace HostObject

theorem handlersOf_attach (object : HostObject) (event other : String) (handler : CellId) :
    (object.attach event handler).handlersOf other =
      if other = event then object.handlersOf event ++ [handler] else object.handlersOf other := by
  unfold attach handlersOf
  dsimp only
  rw [Named.get?_put]
  split
  · rfl
  · rfl

theorem handlersOf_detach (object : HostObject) (event other : String) (handler : CellId) :
    (object.detach event handler).handlersOf other =
      if other = event then (object.handlersOf event).erase handler
      else object.handlersOf other := by
  unfold detach handlersOf
  dsimp only
  rw [Named.get?_put]
  split
  · rfl
  · rfl

theorem handlersOf_detach_sublist (object : HostObject) (event : String) (handler : CellId)
    (other : String) :
    List.Sublist ((object.detach event handler).handlersOf other) (object.handlersOf other) := by
  rw [handlersOf_detach]
  split
  · next same =>
    rw [same]
    exact List.erase_sublist
  · exact List.Sublist.refl _

end HostObject

namespace Store

/-! ### Cells read back -/

theorem get?_of_size_le {store : Store} {cell : CellId} (outside : store.cells.size ≤ cell) :
    store.get? cell = none := by
  unfold get?
  rw [Array.getElem?_eq_none outside]
  rfl

theorem lt_size_of_get? {store : Store} {cell : CellId} {contents : Cell}
    (found : store.get? cell = some contents) : cell < store.cells.size := by
  by_contra outside
  rw [get?_of_size_le (Nat.le_of_not_lt outside)] at found
  cases found

theorem proxy?_eq_some {store : Store} {cell : CellId} {contents : Proxy} :
    store.proxy? cell = some contents ↔ store.get? cell = some (.proxy contents) := by
  unfold proxy?
  split
  · next found => rw [found, Option.some.injEq, Option.some.injEq, Cell.proxy.injEq]
  · next other => exact ⟨nofun, fun found => absurd found (other contents)⟩

theorem lt_size_of_proxy? {store : Store} {cell : CellId} {contents : Proxy}
    (found : store.proxy? cell = some contents) : cell < store.cells.size :=
  lt_size_of_get? (proxy?_eq_some.mp found)

theorem proxy_of_get? {store : Store} {cell : CellId} {contents : Proxy}
    (found : store.get? cell = some (.proxy contents)) : store.proxy cell = contents := by
  unfold Store.proxy
  rw [found]

theorem get?_of_boxed {store : Store} {cell : CellId} {held : Host.Value}
    (boxed : (store.proxy cell).target = .boxed held) :
    store.get? cell = some (.proxy (store.proxy cell)) := by
  unfold proxy at boxed ⊢
  split at boxed
  · next found => exact found
  · cases boxed

theorem isLive_iff {store : Store} {cell : CellId} :
    store.isLive cell = true ↔ ∃ contents, store.get? cell = some contents := by
  unfold isLive
  exact Option.isSome_iff_exists

theorem get?_create_of_lt {store : Store} {contents : Cell} {cell : CellId}
    (inside : cell < store.cells.size) :
    (store.create contents).1.get? cell = store.get? cell := by
  unfold get? create
  rw [Array.getElem?_push_lt inside, Array.getElem?_eq_getElem inside]

theorem get?_create_size (store : Store) (contents : Cell) :
    (store.create contents).1.get? store.cells.size = some contents := by
  unfold get? create
  rw [Array.getElem?_push_size]
  rfl

theorem size_create (store : Store) (contents : Cell) :
    (store.create contents).1.cells.size = store.cells.size + 1 :=
  Array.size_push _

/-- A cell of the store with one more is an old one or the new one. -/
theorem get?_create {store : Store} {contents other : Cell} {cell : CellId}
    (found : (store.create contents).1.get? cell = some other) :
    store.get? cell = some other ∨ (cell = store.cells.size ∧ contents = other) := by
  have inside := lt_size_of_get? found
  rw [size_create] at inside
  rcases Nat.lt_or_eq_of_le (Nat.le_of_lt_succ inside) with before | rfl
  · rw [get?_create_of_lt before] at found
    exact .inl found
  · rw [get?_create_size] at found
    exact .inr ⟨rfl, Option.some.inj found⟩

theorem isLive_create {store : Store} {contents : Cell} {cell : CellId}
    (living : store.isLive cell = true) : (store.create contents).1.isLive cell = true := by
  obtain ⟨former, found⟩ := isLive_iff.mp living
  refine isLive_iff.mpr ⟨former, ?_⟩
  rw [get?_create_of_lt (lt_size_of_get? found)]
  exact found

theorem get?_remove_self (store : Store) (cell : CellId) : (store.remove cell).get? cell = none := by
  unfold get? remove
  dsimp only
  rw [Array.getElem?_setIfInBounds_self]
  split <;> rfl

theorem get?_remove_of_ne {store : Store} {cell other : CellId} (different : cell ≠ other) :
    (store.remove cell).get? other = store.get? other := by
  unfold get? remove
  dsimp only
  rw [Array.getElem?_setIfInBounds_ne different]

theorem get?_of_get?_remove {store : Store} {cell other : CellId} {contents : Cell}
    (found : (store.remove cell).get? other = some contents) : store.get? other = some contents := by
  by_cases here : cell = other
  · subst here
    rw [get?_remove_self] at found
    cases found
  · rwa [get?_remove_of_ne here] at found

theorem size_put (store : Store) (cell : CellId) (contents : Cell) :
    (store.put cell contents).cells.size = store.cells.size :=
  Array.size_setIfInBounds

theorem size_remove (store : Store) (cell : CellId) :
    (store.remove cell).cells.size = store.cells.size :=
  Array.size_setIfInBounds

theorem get?_put_self {store : Store} {cell : CellId} {contents : Cell}
    (inside : cell < store.cells.size) : (store.put cell contents).get? cell = some contents := by
  unfold get? put
  dsimp only
  rw [Array.getElem?_setIfInBounds_self_of_lt inside]
  rfl

theorem get?_put_of_ne {store : Store} {cell other : CellId} {contents : Cell}
    (different : cell ≠ other) : (store.put cell contents).get? other = store.get? other := by
  unfold get? put
  dsimp only
  rw [Array.getElem?_setIfInBounds_ne different]

/-- A cell of the store after a replacement is as it was or the one replaced. -/
theorem get?_put {store : Store} {cell other : CellId} {contents now : Cell}
    (found : (store.put cell contents).get? other = some now) :
    store.get? other = some now ∨ (cell = other ∧ contents = now) := by
  by_cases here : cell = other
  · subst here
    rw [get?_put_self (size_put store cell contents ▸ lt_size_of_get? found)] at found
    exact .inr ⟨rfl, Option.some.inj found⟩
  · rw [get?_put_of_ne here] at found
    exact .inl found

theorem size_modify (store : Store) (cell : CellId) (change : Cell → Cell) :
    (store.modify cell change).cells.size = store.cells.size :=
  Array.size_modify

theorem get?_modify_self (store : Store) (cell : CellId) (change : Cell → Cell) :
    (store.modify cell change).get? cell = (store.get? cell).map change := by
  unfold get? modify
  dsimp only
  rw [Array.getElem?_modify, if_pos rfl]
  cases store.cells[cell]? <;> rfl

theorem get?_modify_of_ne {store : Store} {cell other : CellId} {change : Cell → Cell}
    (different : cell ≠ other) : (store.modify cell change).get? other = store.get? other := by
  unfold get? modify
  dsimp only
  rw [Array.getElem?_modify, if_neg different]

/-- A cell of the store after an item came to a script array is as it was or a script array. -/
theorem get?_append {store : Store} {cell other : CellId} {item : Script.Value} {now : Cell}
    (found : (store.modify cell (·.append item)).get? other = some now) :
    store.get? other = some now ∨ ∃ items, now = .scriptArray items := by
  by_cases here : cell = other
  · subst here
    rw [get?_modify_self] at found
    obtain ⟨former, known, rfl⟩ := Option.map_eq_some_iff.mp found
    cases former with
    | scriptArray items => exact .inr ⟨items.push item, rfl⟩
    | _ => exact .inl known
  · rw [get?_modify_of_ne here] at found
    exact .inl found

theorem isLive_put {store : Store} {cell other : CellId} {contents : Cell}
    (living : store.isLive other = true) : (store.put cell contents).isLive other = true := by
  obtain ⟨former, found⟩ := isLive_iff.mp living
  by_cases here : cell = other
  · subst here
    exact isLive_iff.mpr ⟨contents, get?_put_self (lt_size_of_get? found)⟩
  · refine isLive_iff.mpr ⟨former, ?_⟩
    rwa [get?_put_of_ne here]

/-! ### Namings -/

/-- The cells that living cells name, each as often as it is named. -/
def namings (store : Store) : List CellId :=
  store.cells.toList.flatMap fun cell => (cell.map Cell.cells).getD []

theorem cells_toList_of_get? {store : Store} {cell : CellId} {contents : Cell}
    (found : store.get? cell = some contents) :
    store.cells.toList =
      store.cells.toList.take cell ++ some contents :: store.cells.toList.drop (cell + 1) := by
  have inside := lt_size_of_get? found
  unfold get? at found
  rw [Array.getElem?_eq_getElem inside] at found
  have entry : store.cells.toList[cell] = some contents := by
    rw [Array.getElem_toList]
    exact found
  rw [← entry, List.getElem_cons_drop, List.take_append_drop]

theorem toList_remove_of_get? {store : Store} {cell : CellId} {contents : Cell}
    (found : store.get? cell = some contents) :
    (store.remove cell).cells.toList =
      store.cells.toList.take cell ++ none :: store.cells.toList.drop (cell + 1) := by
  have inside : cell < store.cells.toList.length := lt_size_of_get? found
  unfold remove
  rw [Array.toList_setIfInBounds, List.set_eq_take_append_cons_drop, if_pos inside]

/-- A cell that goes takes its namings along. -/
theorem namings_perm {store : Store} {cell : CellId} {contents : Cell}
    (found : store.get? cell = some contents) :
    store.namings.Perm (contents.cells ++ (store.remove cell).namings) := by
  unfold namings
  rw [toList_remove_of_get? found]
  nth_rewrite 1 [cells_toList_of_get? found]
  simp only [List.flatMap_append, List.flatMap_cons, Option.map_some, Option.map_none,
    Option.getD_some, Option.getD_none, List.nil_append]
  exact List.perm_append_comm_assoc _ _ _

/-- The number of living cells. -/
def population (store : Store) : Nat := store.cells.toList.countP Option.isSome

theorem population_remove {store : Store} {cell : CellId} {contents : Cell}
    (found : store.get? cell = some contents) :
    store.population = (store.remove cell).population + 1 := by
  unfold population
  rw [toList_remove_of_get? found]
  nth_rewrite 1 [cells_toList_of_get? found]
  simp only [List.countP_append, List.countP_cons, Option.isSome_some, Option.isSome_none]
  simp only [if_true, Bool.false_eq_true, if_false]
  omega

theorem population_le_size (store : Store) : store.population ≤ store.cells.size :=
  List.countP_le_length

end Store

/-! ### What proxies stand for -/

/-- The value that a proxy stands for. -/
def Proxy.value (proxy : Proxy) : Host.Value :=
  match proxy.target with
  | .reference value | .boxed value => value
  | .type type => .type type

/-- What a proxy leads to is what it stands for, and lives if it is held by reference. -/
theorem World.targetOf_eq_ok {world : World} {cell : CellId} {value : Host.Value}
    (reached : world.targetOf cell = .ok value) :
    (world.store.proxy cell).value = value ∧
      ((world.store.proxy cell).target = .reference value →
        ∀ target, value.identity? = some target → world.store.isLive target = true) := by
  unfold World.targetOf at reached
  unfold Proxy.value
  dsimp only at reached
  split at reached
  · cases reached
  · cases target : (world.store.proxy cell).target with
    | reference held =>
      rw [target] at reached
      dsimp only at reached ⊢
      cases identity : held.identity? with
      | none =>
        rw [identity] at reached
        cases reached
        exact ⟨rfl, fun _ other known => nomatch known.symm.trans identity⟩
      | some cell =>
        rw [identity] at reached
        dsimp only at reached
        split at reached
        · next living =>
          cases reached
          refine ⟨rfl, fun _ other known => ?_⟩
          rw [← Option.some.inj (identity.symm.trans known)]
          exact living
        · cases reached
    | boxed held =>
      rw [target] at reached
      cases reached
      exact ⟨rfl, nofun⟩
    | type type =>
      rw [target] at reached
      cases reached
      exact ⟨rfl, nofun⟩

end ScriptBridge
