/-
This file holds the invariant of the record that an engine keeps of its proxies.
The entries find exactly the living proxies of each key, every root belongs to a
living proxy or to one whose ticket waits, tickets are those of dead proxies, and
what a living proxy stands for is rooted and lives. Cells that change or die, new
proxies, draining and pruning keep the record in order.
-/

import Mathlib.Data.List.Nodup
import ScriptBridge.Proofs.Cells

namespace ScriptBridge

/-! ### Keys -/

/-- The key of the proxies of a value held by reference. -/
def ReferenceKey.of? (value : Host.Value) (view : Option Host.TypeKey) (flags : ItemFlags) :
    Option ReferenceKey :=
  if value.hasWeakForm then value.identity?.map fun target => ⟨target, view, flags.identity⟩
  else none

theorem ReferenceKey.of?_eq_some {value : Host.Value} {view : Option Host.TypeKey}
    {flags : ItemFlags} {key : ReferenceKey} :
    ReferenceKey.of? value view flags = some key ↔ value.hasWeakForm = true ∧
      ∃ target, value.identity? = some target ∧ ⟨target, view, flags.identity⟩ = key := by
  unfold ReferenceKey.of?
  split
  · next weak => rw [Option.map_eq_some_iff, weak, eq_self_iff_true, true_and]
  · next strong => exact iff_of_false nofun fun both => strong both.1

namespace Proxy

/-- The key of a proxy of a value held by reference. -/
def referenceKey? (proxy : Proxy) : Option ReferenceKey :=
  match proxy.target with
  | .reference value => ReferenceKey.of? value proxy.view proxy.flags
  | _ => none

/-- The key of a proxy of a type. -/
def handleKey? (proxy : Proxy) : Option HandleKey :=
  match proxy.target with
  | .type type => some ⟨type, proxy.flags.identity⟩
  | _ => none

end Proxy

/-- Is the cell a proxy? -/
def Cell.isProxy : Cell → Bool
  | .proxy _ => true
  | _ => false

namespace Store

/-- The number of living proxies. -/
def proxyCount (store : Store) : Nat :=
  store.cells.toList.countP fun cell => (cell.map Cell.isProxy).getD false

/-- From the earlier store to the later, no cell has come to life again, and every proxy that is
still alive is as it was. -/
structure Continues (earlier later : Store) : Prop where
  size_le : earlier.cells.size ≤ later.cells.size
  living : ∀ cell < earlier.cells.size, later.isLive cell = true → earlier.isLive cell = true
  stays : ∀ cell proxy, earlier.get? cell = some (.proxy proxy) → later.isLive cell = true →
    later.get? cell = some (.proxy proxy)

/-- Besides, no proxy has been made. -/
structure KeepsProxies (earlier later : Store) : Prop extends Continues earlier later where
  proxy : ∀ cell proxy, later.get? cell = some (.proxy proxy) →
    earlier.get? cell = some (.proxy proxy)

theorem Continues.refl (store : Store) : store.Continues store where
  size_le := Nat.le_refl _
  living _ _ living := living
  stays _ _ found _ := found

theorem Continues.trans {first second third : Store} (left : first.Continues second)
    (right : second.Continues third) : first.Continues third where
  size_le := Nat.le_trans left.size_le right.size_le
  living cell inside living :=
    left.living cell inside (right.living cell (Nat.lt_of_lt_of_le inside left.size_le) living)
  stays cell proxy found living := by
    have inside := Nat.lt_of_lt_of_le (lt_size_of_get? found) left.size_le
    exact right.stays cell proxy (left.stays cell proxy found (right.living cell inside living)) living

theorem continues_create (store : Store) (contents : Cell) :
    store.Continues (store.create contents).1 where
  size_le := by
    rw [size_create]
    exact Nat.le_succ _
  living cell inside living := by
    unfold isLive at living ⊢
    rw [get?_create_of_lt inside] at living
    exact living
  stays cell proxy found _ := by
    rw [get?_create_of_lt (lt_size_of_get? found)]
    exact found

/-! ### Entries -/

/-- The entries find the living proxies of an engine by key. -/
structure Finds {Key : Type} (store : Store) (engine : EngineId) (keyOf : Proxy → Option Key)
    (entries : List (Key × CellId)) : Prop where
  keys : (entries.map (·.1)).Nodup
  inside : ∀ key cell, (key, cell) ∈ entries → cell < store.cells.size
  entry : ∀ key cell, (key, cell) ∈ entries → store.isLive cell = true →
    ∃ proxy, store.get? cell = some (.proxy proxy) ∧ proxy.engine = engine ∧
      keyOf proxy = some key
  found : ∀ cell proxy key, store.get? cell = some (.proxy proxy) → proxy.engine = engine →
    keyOf proxy = some key → (key, cell) ∈ entries

namespace Finds

variable {Key : Type} {store later : Store} {engine : EngineId} {keyOf : Proxy → Option Key}
  {entries : List (Key × CellId)}

/-- Two living proxies with one key are one. -/
theorem unique (finds : store.Finds engine keyOf entries) {first second : CellId}
    {firstProxy secondProxy : Proxy} {key : Key}
    (firstFound : store.get? first = some (.proxy firstProxy))
    (firstEngine : firstProxy.engine = engine)
    (firstKey : keyOf firstProxy = some key)
    (secondFound : store.get? second = some (.proxy secondProxy))
    (secondEngine : secondProxy.engine = engine) (secondKey : keyOf secondProxy = some key) :
    first = second := by
  have firstEntry := finds.found first firstProxy key firstFound firstEngine firstKey
  have secondEntry := finds.found second secondProxy key secondFound secondEngine secondKey
  have same := List.inj_on_of_nodup_map finds.keys firstEntry secondEntry rfl
  exact congrArg Prod.snd same

theorem keepsProxies (finds : store.Finds engine keyOf entries)
    (keeps : store.KeepsProxies later) : later.Finds engine keyOf entries where
  keys := finds.keys
  inside key cell member := Nat.lt_of_lt_of_le (finds.inside key cell member) keeps.size_le
  entry key cell member living := by
    have before := keeps.living cell (finds.inside key cell member) living
    obtain ⟨proxy, found, owned, keyed⟩ := finds.entry key cell member before
    exact ⟨proxy, keeps.stays cell proxy found living, owned, keyed⟩
  found cell proxy key found owned keyed :=
    finds.found cell proxy key (keeps.proxy cell proxy found) owned keyed

theorem filter (finds : store.Finds engine keyOf entries) :
    store.Finds engine keyOf (entries.filter fun entry => store.isLive entry.2) where
  keys := finds.keys.sublist ((List.filter_sublist).map _)
  inside key cell member := finds.inside key cell (List.mem_of_mem_filter member)
  entry key cell member living := finds.entry key cell (List.mem_of_mem_filter member) living
  found cell proxy key found owned keyed :=
    List.mem_filter.mpr ⟨finds.found cell proxy key found owned keyed,
      Store.isLive_iff.mpr ⟨_, found⟩⟩

variable [BEq Key] [LawfulBEq Key]

/-- The proxy found by its key is the living one. -/
theorem find?_eq_some_iff (finds : store.Finds engine keyOf entries) {key : Key} {cell : CellId} :
    ProxyCache.find? entries store.isLive key = some cell ↔
      ∃ proxy, store.get? cell = some (.proxy proxy) ∧ proxy.engine = engine ∧
        keyOf proxy = some key := by
  unfold ProxyCache.find?
  rw [Option.filter_eq_some_iff, Option.map_eq_some_iff]
  constructor
  · rintro ⟨⟨entry, first, rfl⟩, living⟩
    have member := List.mem_of_find?_eq_some first
    have same : entry.1 = key := by simpa using List.find?_some first
    obtain ⟨proxy, found, owned, keyed⟩ := finds.entry entry.1 entry.2 member living
    exact ⟨proxy, found, owned, same ▸ keyed⟩
  · rintro ⟨proxy, found, owned, keyed⟩
    have member := finds.found cell proxy key found owned keyed
    refine ⟨⟨(key, cell), ?_, rfl⟩, Store.isLive_iff.mpr ⟨_, found⟩⟩
    cases first : entries.find? fun entry => entry.1 == key with
    | none =>
      have absent := List.find?_eq_none.mp first (key, cell) member
      exact absurd (beq_self_eq_true key) absent
    | some entry =>
      have same : entry.1 = key := by simpa using List.find?_some first
      have earlier := List.mem_of_find?_eq_some first
      rw [List.inj_on_of_nodup_map finds.keys earlier member same]

omit [LawfulBEq Key] in
theorem mem_put {key other : Key} {made cell : CellId} :
    (other, cell) ∈ ProxyCache.put entries key made ↔
      ((other, cell) ∈ entries ∧ (other == key) = false) ∨ (other = key ∧ cell = made) := by
  unfold ProxyCache.put
  rw [List.mem_append, List.mem_filter, List.mem_singleton, Prod.mk.injEq, Bool.not_eq_true']

/-- The entries with a new proxy, where none of its key was found. -/
theorem put (finds : store.Finds engine keyOf entries) {key : Key} {proxy : Proxy}
    (owned : proxy.engine = engine) (keyed : keyOf proxy = some key)
    (unfound : ProxyCache.find? entries store.isLive key = none) :
    (store.create (.proxy proxy)).1.Finds engine keyOf
      (ProxyCache.put entries key store.cells.size) where
  keys := by
    unfold ProxyCache.put
    rw [List.map_append, List.nodup_append]
    refine ⟨finds.keys.sublist (List.filter_sublist.map _), List.nodup_singleton _, ?_⟩
    intro other member last final
    rw [List.map_cons, List.map_nil, List.mem_singleton] at final
    obtain ⟨entry, kept, rfl⟩ := List.mem_map.mp member
    have different := (List.mem_filter.mp kept).2
    rintro rfl
    simp [final] at different
  inside other cell member := by
    rw [size_create]
    rcases mem_put.mp member with ⟨before, _⟩ | ⟨_, rfl⟩
    · exact Nat.lt_succ_of_lt (finds.inside other cell before)
    · exact Nat.lt_succ_self _
  entry other cell member living := by
    rcases mem_put.mp member with ⟨before, _⟩ | ⟨rfl, rfl⟩
    · have inside := finds.inside other cell before
      unfold isLive at living
      rw [get?_create_of_lt inside] at living ⊢
      exact finds.entry other cell before living
    · exact ⟨proxy, get?_create_size store _, owned, keyed⟩
  found cell other otherKey found otherOwned otherKeyed := by
    refine mem_put.mpr ?_
    rcases get?_create found with before | ⟨rfl, same⟩
    · have member := finds.found cell other otherKey before otherOwned otherKeyed
      refine .inl ⟨member, ?_⟩
      by_contra alike
      rw [Bool.not_eq_false, beq_iff_eq] at alike
      subst alike
      have found := finds.find?_eq_some_iff.mpr ⟨other, before, otherOwned, otherKeyed⟩
      rw [unfound] at found
      cases found
    · cases same
      rw [keyed] at otherKeyed
      cases otherKeyed
      exact .inr ⟨rfl, rfl⟩

omit [BEq Key] [LawfulBEq Key] in
/-- A new proxy without a key needs no entry, nor does one of another engine. -/
theorem create (finds : store.Finds engine keyOf entries) {proxy : Proxy}
    (keyless : proxy.engine = engine → keyOf proxy = none) :
    (store.create (.proxy proxy)).1.Finds engine keyOf entries where
  keys := finds.keys
  inside key cell member := by
    rw [size_create]
    exact Nat.lt_succ_of_lt (finds.inside key cell member)
  entry key cell member living := by
    have inside := finds.inside key cell member
    unfold isLive at living
    rw [get?_create_of_lt inside] at living ⊢
    exact finds.entry key cell member living
  found cell other key found owned keyed := by
    rcases get?_create found with before | ⟨_, same⟩
    · exact finds.found cell other key before owned keyed
    · cases same
      rw [keyless owned] at keyed
      cases keyed

end Finds

/-! ### The record -/

/-- The record of an engine serves the living proxies: entries find them, and what they stand for
is rooted and lives. -/
structure Serves (store : Store) (engine : EngineId) (cache : ProxyCache) : Prop where
  references : store.Finds engine Proxy.referenceKey? cache.references
  handles : store.Finds engine Proxy.handleKey? cache.handles
  roots : ∀ cell value, (cell, value) ∈ cache.roots → cell ∈ cache.tickets ∨
    ∃ proxy, store.get? cell = some (.proxy proxy) ∧ proxy.engine = engine ∧
      proxy.target = .reference value
  tickets : ∀ cell ∈ cache.tickets, cell < store.cells.size ∧ store.isLive cell = false
  rooted : ∀ cell proxy value, store.get? cell = some (.proxy proxy) → proxy.engine = engine →
    proxy.target = .reference value → (cell, value) ∈ cache.roots ∧
      ∃ target, value.identity? = some target ∧ value.hasWeakForm = true ∧
        store.isLive target = true

namespace Serves

variable {store later : Store} {engine : EngineId} {cache : ProxyCache}

/-- The record goes on serving while cells change or die, if the dead leave tickets and rooted
values live on. -/
theorem keepsProxies (serves : store.Serves engine cache) (keeps : store.KeepsProxies later)
    {fresh : List CellId}
    (died : ∀ cell proxy, store.get? cell = some (.proxy proxy) → proxy.engine = engine →
      later.isLive cell = false → cell ∈ fresh)
    (dead : ∀ cell ∈ fresh, cell < later.cells.size ∧ later.isLive cell = false)
    (targets : ∀ cell value target, (cell, value) ∈ cache.roots → value.identity? = some target →
      store.isLive target = true → later.isLive target = true) :
    later.Serves engine { cache with tickets := cache.tickets ++ fresh } where
  references := serves.references.keepsProxies keeps
  handles := serves.handles.keepsProxies keeps
  roots cell value member := by
    rcases serves.roots cell value member with waiting | ⟨proxy, found, owned, stands⟩
    · exact .inl (List.mem_append_left _ waiting)
    · by_cases living : later.isLive cell = true
      · exact .inr ⟨proxy, keeps.stays cell proxy found living, owned, stands⟩
      · rw [Bool.not_eq_true] at living
        exact .inl (List.mem_append_right _ (died cell proxy found owned living))
  tickets cell member := by
    rcases List.mem_append.mp member with old | new
    · obtain ⟨inside, gone⟩ := serves.tickets cell old
      refine ⟨Nat.lt_of_lt_of_le inside keeps.size_le, ?_⟩
      by_contra living
      rw [Bool.not_eq_false] at living
      rw [keeps.living cell inside living] at gone
      cases gone
    · exact dead cell new
  rooted cell proxy value found owned stands := by
    obtain ⟨root, target, identity, weak, living⟩ :=
      serves.rooted cell proxy value (keeps.proxy cell proxy found) owned stands
    exact ⟨root, target, identity, weak, targets cell value target root identity living⟩

theorem tickets_create (serves : store.Serves engine cache) {contents : Cell} :
    ∀ cell ∈ cache.tickets, cell < (store.create contents).1.cells.size ∧
      (store.create contents).1.isLive cell = false := by
  intro cell member
  obtain ⟨inside, dead⟩ := serves.tickets cell member
  refine ⟨?_, ?_⟩
  · rw [size_create]
    exact Nat.lt_succ_of_lt inside
  · unfold isLive at dead ⊢
    rw [get?_create_of_lt inside]
    exact dead

/-- The record with a new proxy of a value held by reference. -/
theorem addReference (serves : store.Serves engine cache) {value : Host.Value}
    {view : Option Host.TypeKey} {flags : ItemFlags} {key : ReferenceKey}
    (keyed : ReferenceKey.of? value view flags = some key) (living : store.isLive key.target = true)
    (unfound : ProxyCache.find? cache.references store.isLive key = none) :
    (store.create (.proxy ⟨engine, .reference value, view, flags⟩)).1.Serves engine
      (cache.addReference key store.cells.size value) where
  references := serves.references.put rfl keyed unfound
  handles := serves.handles.create fun _ => rfl
  roots cell root member := by
    rcases List.mem_append.mp member with old | new
    · refine (serves.roots cell root old).imp_right ?_
      rintro ⟨proxy, found, owned, stands⟩
      refine ⟨proxy, ?_, owned, stands⟩
      rw [get?_create_of_lt (lt_size_of_get? found)]
      exact found
    · rw [List.mem_singleton, Prod.mk.injEq] at new
      obtain ⟨rfl, rfl⟩ := new
      exact .inr ⟨_, get?_create_size store _, rfl, rfl⟩
  tickets := serves.tickets_create
  rooted cell proxy root found owned stands := by
    rcases get?_create found with before | ⟨rfl, same⟩
    · obtain ⟨rooted, target, identity, weak, alive⟩ :=
        serves.rooted cell proxy root before owned stands
      exact ⟨List.mem_append_left _ rooted, target, identity, weak, isLive_create alive⟩
    · cases same
      cases stands
      obtain ⟨weak, target, identity, rfl⟩ := ReferenceKey.of?_eq_some.mp keyed
      exact ⟨List.mem_append_right _ (List.mem_singleton.mpr rfl), target, identity, weak,
        isLive_create living⟩

/-- A new proxy that no key finds and nothing is rooted for. -/
theorem create (serves : store.Serves engine cache) {proxy : Proxy}
    (unrooted : proxy.engine = engine → ∀ value, proxy.target ≠ .reference value)
    {handles : List (HandleKey × CellId)}
    (finds : (store.create (.proxy proxy)).1.Finds engine Proxy.handleKey? handles) :
    (store.create (.proxy proxy)).1.Serves engine { cache with handles := handles } where
  references := serves.references.create (by
    intro owned
    unfold Proxy.referenceKey?
    split
    · next value stands => exact absurd stands (unrooted owned value)
    · rfl)
  handles := finds
  roots cell value member := by
    refine (serves.roots cell value member).imp_right ?_
    rintro ⟨other, found, owned, stands⟩
    refine ⟨other, ?_, owned, stands⟩
    rw [get?_create_of_lt (lt_size_of_get? found)]
    exact found
  tickets := serves.tickets_create
  rooted cell other value found owned stands := by
    rcases get?_create found with before | ⟨_, same⟩
    · obtain ⟨rooted, target, identity, weak, alive⟩ :=
        serves.rooted cell other value before owned stands
      exact ⟨rooted, target, identity, weak, isLive_create alive⟩
    · cases same
      exact absurd stands (unrooted owned value)

/-- The record once all tickets are drained. -/
theorem drain (serves : store.Serves engine cache) : store.Serves engine cache.drain.1 where
  references := serves.references
  handles := serves.handles
  roots cell value member := by
    obtain ⟨old, kept⟩ := List.mem_filter.mp member
    refine (serves.roots cell value old).imp_left fun waiting => ?_
    simp [waiting] at kept
  tickets cell member := nomatch member
  rooted cell proxy value found owned stands := by
    obtain ⟨rooted, rest⟩ := serves.rooted cell proxy value found owned stands
    refine ⟨List.mem_filter.mpr ⟨rooted, ?_⟩, rest⟩
    have alive := isLive_iff.mpr ⟨_, found⟩
    simp only [Bool.not_eq_true', List.contains_eq_mem, decide_eq_false_iff_not]
    intro waiting
    rw [(serves.tickets cell waiting).2] at alive
    cases alive

/-- The record without the entries of dead proxies. -/
theorem prune (serves : store.Serves engine cache) :
    store.Serves engine (cache.prune store.isLive).1 where
  references := serves.references.filter
  handles := serves.handles.filter
  roots := serves.roots
  tickets := serves.tickets
  rooted := serves.rooted

end Serves

end Store

namespace Store

/-! ### Changes of cells that are no proxies -/

theorem keepsProxies_remove (store : Store) (cell : CellId) :
    store.KeepsProxies (store.remove cell) where
  size_le := Nat.le_of_eq (size_remove store cell).symm
  living other _ living := by
    obtain ⟨contents, found⟩ := isLive_iff.mp living
    exact isLive_iff.mpr ⟨contents, get?_of_get?_remove found⟩
  proxy other proxy found := get?_of_get?_remove found
  stays other proxy found living := by
    obtain ⟨contents, kept⟩ := isLive_iff.mp living
    have same := get?_of_get?_remove kept
    rw [found] at same
    cases same
    exact kept

theorem keepsProxies_create {store : Store} {contents : Cell} (plain : contents.isProxy = false) :
    store.KeepsProxies (store.create contents).1 where
  toContinues := continues_create store contents
  proxy cell proxy found := by
    rcases get?_create found with before | ⟨_, same⟩
    · exact before
    · cases same
      cases plain

theorem keepsProxies_put {store : Store} {cell : CellId} {former contents : Cell}
    (found : store.get? cell = some former) (formerPlain : former.isProxy = false)
    (plain : contents.isProxy = false) : store.KeepsProxies (store.put cell contents) where
  size_le := Nat.le_of_eq (size_put store cell contents).symm
  living other _ living := by
    by_cases here : cell = other
    · subst here
      exact isLive_iff.mpr ⟨former, found⟩
    · unfold isLive at living ⊢
      rw [get?_put_of_ne here] at living
      exact living
  proxy other proxy kept := by
    by_cases here : cell = other
    · subst here
      rw [get?_put_self (lt_size_of_get? found)] at kept
      cases kept
      cases plain
    · rwa [get?_put_of_ne here] at kept
  stays other proxy before _ := by
    by_cases here : cell = other
    · subst here
      rw [found] at before
      cases before
      cases formerPlain
    · rwa [get?_put_of_ne here]

/-! ### The number of proxies -/

theorem toNat_eq_ite (flag : Bool) : flag.toNat = if flag = true then 1 else 0 := by
  cases flag <;> rfl

theorem proxyCount_create (store : Store) (contents : Cell) :
    (store.create contents).1.proxyCount = store.proxyCount + contents.isProxy.toNat := by
  unfold proxyCount create
  dsimp only
  rw [Array.toList_push, List.countP_append, List.countP_singleton, Option.map_some,
    Option.getD_some, ← toNat_eq_ite]

theorem proxyCount_remove {store : Store} {cell : CellId} {contents : Cell}
    (found : store.get? cell = some contents) :
    store.proxyCount = (store.remove cell).proxyCount + contents.isProxy.toNat := by
  unfold proxyCount
  rw [toList_remove_of_get? found]
  nth_rewrite 1 [cells_toList_of_get? found]
  simp only [List.countP_append, List.countP_cons, Option.map_some, Option.map_none,
    Option.getD_some, Option.getD_none, Bool.false_eq_true, if_false]
  rw [← toNat_eq_ite]
  omega

theorem proxyCount_put {store : Store} {cell : CellId} {former contents : Cell}
    (found : store.get? cell = some former) (same : contents.isProxy = former.isProxy) :
    (store.put cell contents).proxyCount = store.proxyCount := by
  have inside : cell < store.cells.toList.length := lt_size_of_get? found
  unfold proxyCount put
  dsimp only
  rw [Array.toList_setIfInBounds, List.set_eq_take_append_cons_drop, if_pos inside]
  nth_rewrite 3 [cells_toList_of_get? found]
  simp only [List.countP_append, List.countP_cons, Option.map_some, Option.getD_some, same]

end Store

end ScriptBridge
