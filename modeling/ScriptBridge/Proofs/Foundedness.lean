/-
This file shows for which values marshaling comes to an end. A value is founded for
an engine if copying arrays, and arrays in them, comes to an end; where arrays go by
reference every value is. A founded value is marshaled within some depth of calls. One
that is not never is, whatever the depth: marshaling a ring of arrays by value goes
round until it is stopped. On a live engine only two things make marshaling fail: the
heap has no room, or a carried proxy of another engine leads nowhere.
-/

import Mathlib.Data.Fintype.EquivFin
import ScriptBridge.Proofs.Sheltering
import ScriptBridge.Script.Module

namespace ScriptBridge

open Run World Bridge Host

/-! ### Coming to an end -/

section

variable {Node : Type} {inside : Node → Node → Prop} {part top : Node}

/-- What is inside itself, directly or deeper, does not come to an end. -/
theorem not_acc_of_ring (ring : Relation.TransGen inside part part) : ¬Acc inside part := by
  intro founded
  replace founded := founded.transGen
  induction founded with
  | intro part _ inductionHypothesis => exact inductionHypothesis part ring ring

/-- What is inside something that comes to an end does so too. -/
theorem acc_of_within (founded : Acc inside top)
    (within : Relation.ReflTransGen inside part top) : Acc inside part := by
  induction within using Relation.ReflTransGen.head_induction_on with
  | refl => exact founded
  | head direct _ inductionHypothesis => exact Acc.inv inductionHypothesis direct

/-- What does not come to an end has something inside that does not either. -/
theorem exists_inside_of_not_acc (endless : ¬Acc inside top) :
    ∃ part, inside part top ∧ ¬Acc inside part := by
  by_contra none
  refine endless (.intro top fun part direct => ?_)
  by_contra partEndless
  exact none ⟨part, direct, partEndless⟩

/-- Where finitely many places have something inside, what comes to an end is what has no ring
inside. -/
theorem acc_iff_ringless {Place : Type} [Finite Place] (place : Place → Node)
    (among : ∀ {part whole}, inside part whole → ∃ index, whole = place index) :
    Acc inside top ↔ ∀ part, Relation.ReflTransGen inside part top →
      ¬Relation.TransGen inside part part := by
  constructor
  · intro founded part within ring
    exact not_acc_of_ring ring (acc_of_within founded within)
  · intro ringless
    let smaller (left right : Place) : Prop :=
      Relation.TransGen inside (place left) (place right) ∧
        Relation.ReflTransGen inside (place right) top
    have transitive : IsTrans _ smaller := ⟨fun _ _ _ first second =>
      ⟨first.1.trans second.1, second.2⟩⟩
    have irreflexive : Std.Irrefl smaller := ⟨fun index ring => ringless _ ring.2 ring.1⟩
    have wellFounded := Finite.wellFounded_of_trans_of_irrefl smaller
    -- Only places have anything inside, so the induction is on them.
    have founded (index : Place) :
        Relation.ReflTransGen inside (place index) top → Acc inside (place index) := by
      induction index using wellFounded.induction with
      | _ index inductionHypothesis =>
        refine fun reached => .intro _ fun middle direct => .intro _ fun part deeper => ?_
        obtain ⟨other, rfl⟩ := among deeper
        exact Acc.inv (inductionHypothesis other ⟨.single direct, reached⟩
          (.head direct reached)) deeper
    refine .intro top fun part direct => ?_
    obtain ⟨index, rfl⟩ := among direct
    exact Acc.inv (founded index .refl) direct

end

/-! ### What is copied -/

namespace World

/-- Is the item one that is copied when the array is marshaled for the engine? -/
inductive Copies (world : World) (engine : EngineId) : Value → Value → Prop
  | item {cell : CellId} {element : TypeRef} {items : Array Value} {item : Value}
      (byValue : (world.engine engine).options.arraysByValue = true)
      (found : world.store.get? cell = some (.hostArray element items))
      (member : item ∈ items.toList) : Copies world engine item (.array cell)

/-- Does copying the value for the engine, and what is copied with it, come to an end? -/
def IsFounded (world : World) (engine : EngineId) (value : Value) : Prop :=
  Acc (world.Copies engine) value

variable {world : World} {engine : EngineId} {value : Value}

theorem copies_holding {item : Value} {cells : List CellId} :
    (world.holding cells).Copies engine item value ↔ world.Copies engine item value := by
  constructor <;>
    · rintro ⟨byValue, found, member⟩
      exact .item byValue found member

/-- Where arrays go by reference nothing is copied. -/
theorem isFounded_of_byReference
    (byReference : (world.engine engine).options.arraysByValue = false) :
    world.IsFounded engine value := by
  refine .intro value fun item copied => ?_
  cases copied with
  | item byValue => exact absurd byValue (Bool.eq_false_iff.mp byReference)

/-- Cells are finitely many. So a value is founded exactly if nothing that is copied with it is
copied with itself. -/
theorem isFounded_iff : world.IsFounded engine value ↔
    ∀ part, Relation.ReflTransGen (world.Copies engine) part value →
      ¬Relation.TransGen (world.Copies engine) part part :=
  acc_iff_ringless (fun cell : Fin world.store.cells.size => .array cell) fun copies => by
    obtain ⟨_, found, _⟩ := copies
    exact ⟨⟨_, Store.lt_size_of_get? found⟩, rfl⟩

/-! ### What makes marshaling fail -/

/-- Why marshaling the value for the engine fails: a world on the way is over the limit of the heap,
or the value, or one that is copied with it, carries a proxy of another engine whose target cannot
be reached. -/
inductive StopsMarshaling (world : World) (engine : EngineId) (value : Value) : ScriptError → Prop
  | full {later : World} (goesOn : Shelters engine (world.holding value.cells) later)
      (exceeds : later.isOverLimit = true) : StopsMarshaling world engine value heapIsFull
  | unreachable {handle cell : CellId} {proxy : Proxy} {error : ScriptError}
      (within : Relation.ReflTransGen (world.Copies engine) (.script handle) value)
      (carries : world.store.get? handle = some (.handle (.proxy cell)))
      (found : world.store.get? cell = some (.proxy proxy)) (foreign : proxy.engine ≠ engine)
      (unreached : world.targetOf cell = .error error) : StopsMarshaling world engine value error

/-- Every proxy that host code carries is one of an engine whose record of proxies is in order. -/
def CarriesInOrder (world : World) : Prop :=
  ∀ {handle cell : CellId}, world.store.get? handle = some (.handle (.proxy cell)) →
    ∃ proxy, world.store.get? cell = some (.proxy proxy) ∧ world.IsKept proxy.engine

/-- A proxy of another engine that has not been disposed leads to a target that is sheltered. -/
theorem IsKept.isSheltered_target {cell : CellId} {proxy : Proxy}
    (kept : world.IsKept proxy.engine) (enabled : (world.engine proxy.engine).isDisposed = false)
    (found : world.store.get? cell = some (.proxy proxy)) (foreign : proxy.engine ≠ engine)
    (stands : proxy.target = .reference value) :
    ∃ target contents, value.identity? = some target ∧ value.hasWeakForm = true ∧
      world.store.get? target = some contents ∧ world.IsSheltered engine target := by
  obtain ⟨root, target, identity, weak, alive⟩ :=
    (kept.serves enabled).rooted cell proxy value found rfl stands
  obtain ⟨contents, living⟩ := Store.isLive_iff.mp alive
  exact ⟨target, contents, identity, weak, living, .rooted foreign root identity⟩

/-- What a proxy of a value held by reference leads to can be held weakly. -/
theorem IsKept.weak_of_targetOf {cell : CellId} {proxy : Proxy} {target : Value}
    (kept : world.IsKept proxy.engine) (found : world.store.get? cell = some (.proxy proxy))
    (stands : proxy.target = .reference value) (reached : world.targetOf cell = .ok target) :
    ∃ place, target.identity? = some place ∧ target.hasWeakForm = true := by
  cases enabled : (world.engine proxy.engine).isDisposed with
  | true =>
    rw [targetOf_disposed enabled ⟨found, rfl⟩] at reached
    cases reached
  | false =>
    obtain ⟨-, place, identity, weak, -⟩ :=
      (kept.serves enabled).rooted cell proxy value found rfl stands
    rw [kept.targetOf enabled ⟨found, rfl⟩, stands] at reached
    cases reached
    exact ⟨place, identity, weak⟩

/-- Where a carried proxy of another engine leads, it leads for as long as what is sheltered is. -/
theorem targetOf_of_shelters {start : World} {cell : CellId} {proxy : Proxy}
    (goesOn : Shelters engine start world) (kept : start.IsKept proxy.engine)
    (sheltered : start.IsSheltered engine cell)
    (found : start.store.get? cell = some (.proxy proxy)) (foreign : proxy.engine ≠ engine) :
    world.targetOf cell = start.targetOf cell := by
  have foundStill := goesOn.stays sheltered found
  unfold World.targetOf Store.proxy
  simp only [found, foundStill]
  rw [goesOn.disposed]
  cases enabled : (start.engine proxy.engine).isDisposed with
  | true => rfl
  | false =>
    rw [if_neg Bool.false_ne_true, if_neg Bool.false_ne_true]
    cases stands : proxy.target with
    | boxed | type => rfl
    | reference value =>
      obtain ⟨target, contents, identity, -, living, rooted⟩ :=
        kept.isSheltered_target enabled found foreign stands
      have lives {later : World} (found : later.store.get? target = some contents) :
          later.store.isLive target = true := Store.isLive_iff.mpr ⟨contents, found⟩
      simp only [identity, lives living, lives (goesOn.stays rooted living)]

end World

/-! ### Marshaling -/

namespace Bridge

variable {engine : EngineId} {start : World} {errors : ScriptError → Prop} {endless : Prop}

/-- If the carried value is a proxy, is it sheltered and of an engine whose record is in order, and
is the error of reaching its target one of the errors? -/
def IsAdoptable (engine : EngineId) (start : World) (errors : ScriptError → Prop)
    (inner : Script.Value) : Prop :=
  ∀ cell, inner = .proxy cell → start.IsSheltered engine cell ∧
    ∃ proxy, start.store.get? cell = some (.proxy proxy) ∧ start.IsKept proxy.engine ∧
      ∀ error, proxy.engine ≠ engine → start.targetOf cell = .error error → errors error

/-- The items of an array are marshaled one by one. -/
theorem exportItems_marshals {calls : Calls} (element : TypeRef) {items : List Value}
    (marshals : ∀ item ∈ items,
      (calls.toScript engine item element).Marshals engine start errors endless) :
    (exportItems calls engine element items).Marshals engine start errors endless := by
  induction items with
  | nil => exact .pure _
  | cons item rest inductionHypothesis =>
    refine .andThen (.held (marshals item List.mem_cons_self)) fun _ => ?_
    have others := inductionHypothesis fun other member =>
      marshals other (List.mem_cons_of_mem _ member)
    exact .andThen others fun _ => .pure _

/-- An array is never marshaled if one of its items never is. -/
theorem exportItems_neverAnswers {calls : Calls} {element : TypeRef} {items : List Value}
    {item : Value} (member : item ∈ items)
    (marshals : ∀ item ∈ items,
      (calls.toScript engine item element).Marshals engine start errors endless)
    (never : (calls.toScript engine item element).NeverAnswers engine start) :
    (exportItems calls engine element items).NeverAnswers engine start := by
  induction items with
  | nil => cases member
  | cons first rest inductionHypothesis =>
    rcases List.mem_cons.mp member with rfl | member
    · exact .bind (.held never)
    · refine .andThen (.held (marshals first List.mem_cons_self)) fun _ => .bind ?_
      exact inductionHypothesis member fun other member =>
        marshals other (List.mem_cons_of_mem _ member)

variable (live : (start.engine engine).isDisposed = false)
  (full : ∀ {later}, Shelters engine start later → later.isOverLimit = true → errors heapIsFull)

include live full

/-- A carried value is adopted, unless it is a proxy of another engine that leads nowhere. -/
theorem adopt_marshals {inner : Script.Value} (adoptable : IsAdoptable engine start errors inner) :
    (adopt engine inner).Marshals engine start errors endless := by
  refine .andThen (.holdCells _) fun _ => ?_
  cases inner with
  | proxy cell =>
    obtain ⟨sheltered, proxy, found, kept, unreached⟩ := adoptable cell rfl
    refine .observing fun world goesOn => ?_
    have known : world.store.proxy cell = proxy := by
      unfold Store.proxy
      rw [goesOn.stays sheltered found]
    simp only [known]
    split
    next => exact .pure _
    next other =>
      have foreign : proxy.engine ≠ engine := mt beq_iff_eq.mpr other
      split
      next => exact .andThen (findHandle_marshals live _ _) fun _ => .pure _
      next => exact .andThen (boxValue_marshals live full _ _) fun _ => .pure _
      next value stands =>
        refine .observing fun world goesOn => ?_
        rw [targetOf_of_shelters goesOn kept sheltered found foreign]
        refine .reaching (fun error => unreached error foreign) fun target reached => ?_
        obtain ⟨place, identity, weak⟩ := kept.weak_of_targetOf found stands reached
        refine .andThen (.holdCells _) fun _ => .andThen (reserve_marshals full) fun _ => ?_
        exact .andThen (findReference_marshals live identity weak _ _) fun _ => .pure _
  | _ => exact .pure _

/-- A value is marshaled if the items that are copied with it are, and what it carries is
adopted. -/
theorem toScript_marshals {calls : Calls} {value : Value}
    (items : ∀ item element, start.Copies engine item value →
      (calls.toScript engine item element).Marshals engine start errors endless)
    (carried : ∀ handle inner, value = .script handle →
      start.store.get? handle = some (.handle inner) → IsAdoptable engine start errors inner)
    (declared : TypeRef) :
    (toScript calls engine value declared).Marshals engine start errors endless := by
  have asReference {target : CellId} (identity : value.identity? = some target)
      (weak : value.hasWeakForm = true) : (do
        return .proxy (← proxyReference engine value declared .none) :
          ScriptRun Script.Value).Marshals engine start errors endless :=
    .andThen (proxyReference_marshals live full identity weak declared .none) fun _ => .pure _
  have asBoxed : (do
      return .proxy (← boxValue engine value .none) : ScriptRun Script.Value).Marshals engine start
        errors endless :=
    .andThen (boxValue_marshals live full value .none) fun _ => .pure _
  refine .scope (.andThen (.holdCells _) fun _ => .observing fun world goesOn => ?_)
  cases value with
  | dateTime moment =>
    dsimp only
    split
    · exact .pure _
    · exact asBoxed
  | enumeration | struct => exact asBoxed
  | type type =>
    exact .andThen (reserve_marshals full) fun _ =>
      .andThen (findHandle_marshals live type .none) fun _ => .pure _
  | script handle =>
    refine .observing fun between goesOn => ?_
    split
    next inner carries =>
      exact adopt_marshals live full (carried handle inner rfl (goesOn.handle carries))
    next => exact .pure _
  | array cell =>
    dsimp only
    split
    next byValue =>
      rw [goesOn.options] at byValue
      refine .observing fun _ _ => .observing fun between goesOn => ?_
      refine .andThen (exportItems_marshals _ fun item member => ?_) fun _ => ?_
      · obtain ⟨_, _, found, member⟩ := goesOn.hostItems member
        exact items item _ (.item byValue found member)
      · exact .andThen (.create rfl) fun _ => .pure _
    next => exact asReference rfl rfl
  | delegate cell =>
    refine .observing fun between _ => ?_
    split
    · exact .pure _
    · exact asReference rfl rfl
  | object | box => exact asReference rfl rfl
  | _ => exact .pure _

end Bridge

/-! ### Depth -/

section

variable {world : World} {engine : EngineId} {top value item : Value}

theorem World.Copies.isSheltered {start : World} (copies : start.Copies engine item value)
    (sheltered : ∀ cell ∈ value.cells, start.IsSheltered engine cell) :
    ∀ cell ∈ item.cells, start.IsSheltered engine cell := by
  cases copies with
  | item _ found member =>
    have whole := sheltered _ (List.mem_singleton.mpr rfl)
    exact fun cell named => .part whole found (List.mem_flatMap.mpr ⟨_, member, named⟩)

/-- The cells of what is copied with a value in use are sheltered. -/
theorem World.isSheltered_of_within
    (within : Relation.ReflTransGen (world.Copies engine) value top) :
    ∀ cell ∈ value.cells, (world.holding top.cells).IsSheltered engine cell := by
  induction within using Relation.ReflTransGen.head_induction_on with
  | refl => exact fun cell member => .held (World.mem_held_holding.mpr (.inl member))
  | head copies _ inductionHypothesis =>
    exact (World.copies_holding.mpr copies).isSheltered inductionHypothesis

/-- The proxies that are carried along with the value are adopted, or marshaling it is refused. -/
theorem World.CarriesInOrder.isAdoptable (carriesInOrder : world.CarriesInOrder) {handle : CellId}
    {inner : Script.Value}
    (within : Relation.ReflTransGen (world.Copies engine) (.script handle) top)
    (carries : world.store.get? handle = some (.handle inner)) :
    IsAdoptable engine (world.holding top.cells) (world.StopsMarshaling engine top) inner := by
  rintro cell rfl
  have held := World.isSheltered_of_within within handle (List.mem_singleton.mpr rfl)
  obtain ⟨proxy, found, kept⟩ := carriesInOrder carries
  refine ⟨.part held carries (List.mem_singleton.mpr rfl), proxy, found, kept.step (.held _ _), ?_⟩
  exact fun error foreign unreached => .unreachable within carries found foreign unreached

/-- Every item that is copied is among finitely many. -/
theorem World.exists_copied (world : World) (engine : EngineId) (value : Value) :
    ∃ items : List Value, ∀ item, world.Copies engine item value → item ∈ items := by
  cases value with
  | array cell =>
    refine ⟨(world.store.hostItems cell).toList, fun item copies => ?_⟩
    cases copies with
    | item _ found member =>
      unfold Store.hostItems
      rw [found]
      exact member
  | _ => exact ⟨[], fun item copies => by cases copies⟩

/-- What finitely many values need some depth for, some depth is enough for. -/
theorem exists_depth {holds : Value → Nat → Prop} {items : List Value}
    (each : ∀ item ∈ items, ∃ depth, ∀ deeper ≥ depth, holds item deeper) :
    ∃ depth, ∀ deeper ≥ depth, ∀ item ∈ items, holds item deeper := by
  induction items with
  | nil => exact ⟨0, fun _ _ _ member => by cases member⟩
  | cons first rest inductionHypothesis =>
    obtain ⟨one, firstHolds⟩ := each first List.mem_cons_self
    obtain ⟨other, restHold⟩ := inductionHypothesis fun item member =>
      each item (List.mem_cons_of_mem first member)
    refine ⟨max one other, fun deeper enough item member => ?_⟩
    rcases List.mem_cons.mp member with rfl | member
    · exact firstHolds deeper (Nat.le_trans (Nat.le_max_left one other) enough)
    · exact restHold deeper (Nat.le_trans (Nat.le_max_right one other) enough) item member

/-- An array that is not founded is not marshaled if one of its items is not. -/
theorem toScript_neverAnswers {calls : Calls}
    (within : Relation.ReflTransGen (world.Copies engine) value top)
    (copies : world.Copies engine item value)
    (items : ∀ item element, world.Copies engine item value →
      (calls.toScript engine item element).Marshals engine (world.holding top.cells)
        (world.StopsMarshaling engine top) True)
    (never : ∀ element, (calls.toScript engine item element).NeverAnswers engine
      (world.holding top.cells)) (declared : TypeRef) :
    (toScript calls engine value declared).NeverAnswers engine (world.holding top.cells) := by
  cases copies with
  | @item cell element contents _ byValue found member =>
    have sheltered := World.isSheltered_of_within within cell (List.mem_singleton.mpr rfl)
    have copying : ((world.holding top.cells).engine engine).options.arraysByValue = true := byValue
    unfold toScript
    refine .scope (.holding (.observing fun between goesOn => ?_))
    have copies : (between.engine engine).options.arraysByValue = true := by
      rw [goesOn.options]
      exact copying
    dsimp only
    rw [if_pos copies]
    refine .observing fun between goesOn => ?_
    refine .observing fun between goesOn => ?_
    have itemsStill : between.store.hostItems cell = contents := by
      unfold Store.hostItems
      rw [goesOn.stays sheltered found]
    simp only [itemsStill]
    have marshals (element : TypeRef) : ∀ other ∈ contents.toList,
        (calls.toScript engine other element).Marshals engine (world.holding top.cells)
          (world.StopsMarshaling engine top) True :=
      fun other member => items other element (.item byValue found member)
    exact .bind (exportItems_neverAnswers member (marshals _) (never _))

variable (live : (world.engine engine).isDisposed = false) (carriesInOrder : world.CarriesInOrder)

include live carriesInOrder

/-- What is copied with a value in use is marshaled if what is copied with it in turn is. -/
theorem toScript_marshals_within {calls : Calls} {endless : Prop}
    (within : Relation.ReflTransGen (world.Copies engine) value top)
    (items : ∀ item element, world.Copies engine item value →
      (calls.toScript engine item element).Marshals engine (world.holding top.cells)
        (world.StopsMarshaling engine top) endless) (declared : TypeRef) :
    (toScript calls engine value declared).Marshals engine (world.holding top.cells)
      (world.StopsMarshaling engine top) endless := by
  have liveStill : ((world.holding top.cells).engine engine).isDisposed = false := live
  refine toScript_marshals liveStill StopsMarshaling.full ?_ ?_ declared
  · exact fun item element copies => items item element (World.copies_holding.mp copies)
  · rintro handle inner rfl carries
    exact carriesInOrder.isAdoptable within carries

/-- Within every depth marshaling a value on a live engine fails for a reason. -/
theorem startWithin_marshals (depth : Nat)
    (within : Relation.ReflTransGen (world.Copies engine) value top) (declared : TypeRef) :
    (toScript (Script.startWithin depth) engine value declared).Marshals engine
      (world.holding top.cells) (world.StopsMarshaling engine top) True := by
  induction depth generalizing value declared with
  | zero =>
    exact toScript_marshals_within live carriesInOrder within
      (fun _ _ _ => Run.Marshals.runsOut trivial) declared
  | succ depth inductionHypothesis =>
    refine toScript_marshals_within live carriesInOrder within ?_ declared
    exact fun item element copies => inductionHypothesis (.head copies within) element

/-- A founded value is marshaled without running out of depth, from some depth on. -/
theorem startWithin_marshals_of_isFounded (founded : world.IsFounded engine value)
    (within : Relation.ReflTransGen (world.Copies engine) value top) :
    ∃ depth, ∀ deeper ≥ depth, ∀ declared,
      (toScript (Script.startWithin deeper) engine value declared).Marshals engine
        (world.holding top.cells) (world.StopsMarshaling engine top) False := by
  induction founded with
  | intro value _ inductionHypothesis =>
    obtain ⟨items, copied⟩ := world.exists_copied engine value
    have each : ∀ item ∈ items, ∃ depth, ∀ deeper ≥ depth, world.Copies engine item value →
        ∀ declared, (toScript (Script.startWithin deeper) engine item declared).Marshals engine
          (world.holding top.cells) (world.StopsMarshaling engine top) False := by
      intro item _
      by_cases copies : world.Copies engine item value
      · obtain ⟨depth, marshals⟩ := inductionHypothesis item copies (.head copies within)
        exact ⟨depth, fun deeper enough _ => marshals deeper enough⟩
      · exact ⟨0, fun _ _ copied => absurd copied copies⟩
    obtain ⟨depth, marshals⟩ := exists_depth each
    refine ⟨depth + 1, fun deeper enough declared => ?_⟩
    obtain ⟨more, rfl⟩ := Nat.exists_eq_add_of_lt enough
    refine toScript_marshals_within live carriesInOrder within (fun item element copies => ?_)
      declared
    exact marshals (depth + more) (Nat.le_add_right depth more) item (copied item copies) copies
      element

/-- A value that is not founded is never marshaled. -/
theorem startWithin_neverAnswers (depth : Nat) (endless : ¬world.IsFounded engine value)
    (within : Relation.ReflTransGen (world.Copies engine) value top) (declared : TypeRef) :
    (toScript (Script.startWithin depth) engine value declared).NeverAnswers engine
      (world.holding top.cells) := by
  induction depth generalizing value declared with
  | zero =>
    obtain ⟨item, copies, -⟩ := exists_inside_of_not_acc endless
    exact toScript_neverAnswers within copies
      (fun _ _ _ => Run.Marshals.runsOut trivial) (fun _ => Run.NeverAnswers.runsOut) declared
  | succ depth inductionHypothesis =>
    obtain ⟨item, copies, itemEndless⟩ := exists_inside_of_not_acc endless
    refine toScript_neverAnswers within copies
      (fun other element copied => ?_) (fun element => ?_) declared
    · exact startWithin_marshals live carriesInOrder depth (.head copied within) element
    · exact inductionHypothesis itemEndless (.head copies within) element

end

/-! ### Which values are marshaled -/

/-- That the cells of a value are in use does not matter to how it is marshaled. -/
theorem Bridge.result_toScript_holding (calls : Calls) (engine : EngineId) (value : Value)
    (declared : TypeRef) (world : World) :
    ((toScript calls engine value declared).outcome (world.holding value.cells)).1 =
      ((toScript calls engine value declared).outcome world).1 := by
  unfold toScript
  rw [outcome_scope, outcome_scope, outcome_bind_of_ok (outcome_holdCells _ _),
    outcome_bind_of_ok (outcome_holdCells _ _)]
  dsimp only
  rw [World.holding_eq_self fun cell member => World.mem_held_holding.mpr (.inl member)]

section

variable {world : World} {engine : EngineId} {value : Value}
  (live : (world.engine engine).isDisposed = false) (carriesInOrder : world.CarriesInOrder)

include live carriesInOrder

theorem stopsMarshaling_of_toScript {depth : Nat} {declared : TypeRef} {error : ScriptError}
    (failed : ((toScript (Script.startWithin depth) engine value declared).outcome world).1 =
      .error (.raised error)) : world.StopsMarshaling engine value error := by
  rw [← result_toScript_holding] at failed
  exact (startWithin_marshals live carriesInOrder depth .refl declared).raised (.refl _) failed

theorem toScript_ends (founded : world.IsFounded engine value) (declared : TypeRef) :
    ∃ depth, ∀ deeper ≥ depth,
      ((toScript (Script.startWithin deeper) engine value declared).outcome world).1 ≠
        .error .exhausted := by
  obtain ⟨depth, marshals⟩ := startWithin_marshals_of_isFounded live carriesInOrder founded .refl
  refine ⟨depth, fun deeper enough ended => ?_⟩
  rw [← result_toScript_holding] at ended
  exact (marshals deeper enough declared).exhausted (.refl _) ended

theorem toScript_ne_ok (endless : ¬world.IsFounded engine value) (depth : Nat) (declared : TypeRef)
    (result : Script.Value) :
    ((toScript (Script.startWithin depth) engine value declared).outcome world).1 ≠ .ok result := by
  intro answered
  rw [← result_toScript_holding] at answered
  have never := startWithin_neverAnswers live carriesInOrder depth endless .refl declared
  exact never _ (.refl _) result _ (Prod.ext answered rfl)

end

/-- On a live engine marshaling fails only where the heap is over its limit, or where a carried
proxy of another engine leads nowhere. It comes to an end for every founded value, and has no result
for one that is not, whatever the depth. Where arrays go by reference every value is founded; where
they go by value, every value is that has no ring in what is copied with it. -/
theorem founded_values_are_marshaled {world : World} {engine : EngineId}
    (live : (world.engine engine).isDisposed = false) (carriesInOrder : world.CarriesInOrder)
    (value : Value) (declared : TypeRef) :
    let marshaled depth :=
      ((toScript (Script.startWithin depth) engine value declared).outcome world).1
    (∀ depth error, marshaled depth = .error (.raised error) →
        world.StopsMarshaling engine value error) ∧
      (world.IsFounded engine value → ∃ depth, ∀ deeper ≥ depth,
        marshaled deeper ≠ .error .exhausted) ∧
      (¬world.IsFounded engine value → ∀ depth result, marshaled depth ≠ .ok result) ∧
      ((world.engine engine).options.arraysByValue = false → world.IsFounded engine value) ∧
      (world.IsFounded engine value ↔
        ∀ part, Relation.ReflTransGen (world.Copies engine) part value →
          ¬Relation.TransGen (world.Copies engine) part part) :=
  ⟨fun _ _ => stopsMarshaling_of_toScript live carriesInOrder,
    fun founded => toScript_ends live carriesInOrder founded declared,
    fun endless depth => toScript_ne_ok live carriesInOrder endless depth declared,
    World.isFounded_of_byReference, World.isFounded_iff⟩

/-! ### Nested arrays and rings -/

/-- Two engines, for one of which arrays go by value; an object and its proxy of the other engine,
which an array carries, and an array of that array twice. -/
def World.withGrid : World where
  store :=
    { types := ⟨#[{ name := "Node", kind := .reference }]⟩
      cells := #[some (.object { type := 0 }),
        some (.proxy ⟨1, .reference (.object 0), none, .none⟩), some (.handle (.proxy 1)),
        some (.hostArray .object #[.script 2, .null]),
        some (.hostArray (.array .object) #[.array 3, .array 3])] }
  engines := #[Engine.new "main" { arraysByValue := true } none,
    { Engine.new "other" {} none with
      cache := { references := [(⟨0, none, .none⟩, 1)], roots := [(1, .object 0)] } }]
  heap := { proxies := 1 }

namespace World

theorem withGrid_cells {cell : CellId} {contents : Cell}
    (found : withGrid.store.get? cell = some contents) :
    (cell = 0 ∧ contents = .object { type := 0 }) ∨
      (cell = 1 ∧ contents = .proxy ⟨1, .reference (.object 0), none, .none⟩) ∨
      (cell = 2 ∧ contents = .handle (.proxy 1)) ∨
      (cell = 3 ∧ contents = .hostArray .object #[.script 2, .null]) ∨
      (cell = 4 ∧ contents = .hostArray (.array .object) #[.array 3, .array 3]) := by
  match cell with
  | 0 => exact .inl ⟨rfl, (Option.some.inj found).symm⟩
  | 1 => exact .inr (.inl ⟨rfl, (Option.some.inj found).symm⟩)
  | 2 => exact .inr (.inr (.inl ⟨rfl, (Option.some.inj found).symm⟩))
  | 3 => exact .inr (.inr (.inr (.inl ⟨rfl, (Option.some.inj found).symm⟩)))
  | 4 => exact .inr (.inr (.inr (.inr ⟨rfl, (Option.some.inj found).symm⟩)))
  | cell + 5 => exact nomatch (Store.get?_of_size_le (Nat.le_add_left 5 cell)).symm.trans found

theorem withGrid_isKept : withGrid.IsKept 1 where
  inside := Nat.one_lt_two
  counted := rfl
  serves _ :=
    { references :=
        { keys := List.nodup_singleton _
          inside := by
            intro key cell member
            cases List.mem_singleton.mp member
            decide
          entry := by
            intro key cell member _
            cases List.mem_singleton.mp member
            exact ⟨_, rfl, rfl, rfl⟩
          found := by
            intro cell proxy key found _ keyed
            rcases withGrid_cells found with ⟨-, ⟨⟩⟩ | ⟨rfl, ⟨⟩⟩ | ⟨-, ⟨⟩⟩ | ⟨-, ⟨⟩⟩ | ⟨-, ⟨⟩⟩
            cases keyed
            exact List.mem_singleton.mpr rfl }
      handles :=
        { keys := List.nodup_nil
          inside := nofun
          entry := nofun
          found := by
            intro cell proxy key found _ keyed
            rcases withGrid_cells found with ⟨-, ⟨⟩⟩ | ⟨rfl, ⟨⟩⟩ | ⟨-, ⟨⟩⟩ | ⟨-, ⟨⟩⟩ | ⟨-, ⟨⟩⟩
            cases keyed }
      roots := by
        intro cell value member
        cases List.mem_singleton.mp member
        exact .inr ⟨_, rfl, rfl, rfl⟩
      tickets := nofun
      rooted := by
        intro cell proxy value found _ stands
        rcases withGrid_cells found with ⟨-, ⟨⟩⟩ | ⟨rfl, ⟨⟩⟩ | ⟨-, ⟨⟩⟩ | ⟨-, ⟨⟩⟩ | ⟨-, ⟨⟩⟩
        cases stands
        exact ⟨List.mem_singleton.mpr rfl, 0, rfl, rfl, rfl⟩ }
  emptied := nofun

theorem withGrid_carriesInOrder : withGrid.CarriesInOrder := by
  intro handle cell carries
  rcases withGrid_cells carries with ⟨-, ⟨⟩⟩ | ⟨-, ⟨⟩⟩ | ⟨rfl, ⟨⟩⟩ | ⟨-, ⟨⟩⟩ | ⟨-, ⟨⟩⟩
  exact ⟨_, rfl, withGrid_isKept⟩

theorem withGrid_isFounded : withGrid.IsFounded 0 (.array 4) := by
  have leaf {value : Value} (plain : ∀ cell, value ≠ .array cell) : withGrid.IsFounded 0 value := by
    refine .intro value fun item copies => ?_
    cases copies with
    | item => exact absurd rfl (plain _)
  have row : withGrid.IsFounded 0 (.array 3) := by
    refine .intro _ fun item copies => ?_
    obtain ⟨-, found, member⟩ := copies
    rcases withGrid_cells found with ⟨⟨⟩, -⟩ | ⟨⟨⟩, -⟩ | ⟨⟨⟩, -⟩ | ⟨-, ⟨⟩⟩ | ⟨⟨⟩, -⟩
    rcases List.mem_cons.mp member with rfl | rest
    · exact leaf nofun
    · cases List.mem_singleton.mp rest
      exact leaf nofun
  refine .intro _ fun item copies => ?_
  obtain ⟨-, found, member⟩ := copies
  rcases withGrid_cells found with ⟨⟨⟩, -⟩ | ⟨⟨⟩, -⟩ | ⟨⟨⟩, -⟩ | ⟨⟨⟩, -⟩ | ⟨-, ⟨⟩⟩
  rcases List.mem_cons.mp member with rfl | rest
  · exact row
  · cases List.mem_singleton.mp rest
    exact row

end World

/-- The array of arrays is marshaled within some depth. -/
theorem founded_values_are_marshaled_of_grid :
    (World.withGrid.engine 0).isDisposed = false ∧ World.withGrid.CarriesInOrder ∧
      World.withGrid.IsFounded 0 (.array 4) ∧ ∃ depth, ∀ deeper ≥ depth,
        ((toScript (Script.startWithin deeper) 0 (.array 4) .object).outcome .withGrid).1 ≠
          .error .exhausted :=
  ⟨rfl, World.withGrid_carriesInOrder, World.withGrid_isFounded,
    (founded_values_are_marshaled rfl World.withGrid_carriesInOrder (.array 4) .object).2.1
      World.withGrid_isFounded⟩

/-- An engine for which arrays go by value, without a limit of the heap, and an array that has been
made its own item. -/
def World.withRing : World where
  store := { cells := #[some (.hostArray .object #[.array 0])] }
  engines := #[Engine.new "main" { arraysByValue := true } none]

theorem World.withRing_cells {cell : CellId} {contents : Cell}
    (found : withRing.store.get? cell = some contents) :
    cell = 0 ∧ contents = .hostArray .object #[.array 0] := by
  match cell with
  | 0 => exact ⟨rfl, (Option.some.inj found).symm⟩
  | cell + 1 => exact nomatch (Store.get?_of_size_le (Nat.le_add_left 1 cell)).symm.trans found

/-- The engine is live and its heap has no limit, and still marshaling the ring has no end: no depth
is enough, and no error stops it. -/
theorem rings_are_never_marshaled :
    (World.withRing.engine 0).isDisposed = false ∧ World.withRing.heapLimit = none ∧
      ∀ (declared : TypeRef) (depth : Nat),
        ((toScript (Script.startWithin depth) 0 (.array 0) declared).outcome .withRing).1 =
          .error .exhausted := by
  have live : (World.withRing.engine 0).isDisposed = false := rfl
  have carriesInOrder : World.withRing.CarriesInOrder := by
    intro handle cell carries
    cases (World.withRing_cells carries).2
  have ring : Relation.TransGen (World.withRing.Copies 0) (.array 0) (.array 0) :=
    .single (.item rfl rfl (List.mem_singleton.mpr rfl))
  have endless := not_acc_of_ring ring
  refine ⟨live, rfl, fun declared depth => ?_⟩
  rcases ended : ((toScript (Script.startWithin depth) 0 (.array 0) declared).outcome
    .withRing).1 with (error | _) | result
  · cases stopsMarshaling_of_toScript live carriesInOrder ended with
    | full goesOn exceeds =>
      unfold World.isOverLimit at exceeds
      rw [goesOn.heapLimit] at exceeds
      cases exceeds
    | unreachable _ carries => cases (World.withRing_cells carries).2
  · rfl
  · exact absurd ended (toScript_ne_ok live carriesInOrder endless depth declared result)

end ScriptBridge
