/-
This file sends script values through host code that takes them as they come. Scalars
have a form on the host side and return from it; what has none is carried through in a
handle; a proxy goes out as what it stands for, for which the record of proxies finds
the same proxy on the way back, or which is boxed anew and compared by value. What
returns is strictly equal to what went out.
-/

import ScriptBridge.Bridge.ToHost
import ScriptBridge.Proofs.Exchange

namespace ScriptBridge

open Run World Bridge Host

/-! ### Numbers -/

/-- What an integer is rounded to is a number. -/
theorem Number.Binary.isNaN_ofInt (format : Number.Format) (value : Int) :
    (ofInt format value).isNaN = false := by
  have bounded (numerator denominator : Nat) :
      roundUnits format numerator denominator ≤ format.infinity := Nat.min_le_right _ _
  unfold isNaN ofInt ofQuotient ofMagnitude
  rw [decide_eq_false_iff_not, Nat.not_lt]
  split
  · exact bounded _ _
  · exact Nat.le_refl _

/-! ### Runs that have a value -/

/-- In the world the run has a value, of which something holds. -/
def Run.Achieves {Failure Result : Type} (run : Run Failure Result) (world : World)
    (holds : Result → World → Prop) : Prop :=
  ∃ result after, run.outcome world = (.ok result, after) ∧ holds result after

namespace Run.Achieves

variable {Failure Result Next : Type} {run : Run Failure Result} {next : Result → Run Failure Next}
  {world : World} {holds : Result → World → Prop} {goal : Next → World → Prop}

theorem pure {result : Result} (holding : holds result world) :
    (Pure.pure result : Run Failure Result).Achieves world holds :=
  ⟨result, world, rfl, holding⟩

/-- A run made of two achieves what the second achieves after the first. -/
theorem bind (first : run.Achieves world holds)
    (second : ∀ result after, holds result after → (next result).Achieves after goal) :
    (run >>= next).Achieves world goal := by
  obtain ⟨result, between, ran, holding⟩ := first
  obtain ⟨last, after, ranNext, reached⟩ := second result between holding
  exact ⟨last, after, (outcome_bind_of_ok ran).trans ranNext, reached⟩

theorem weaken (achieves : run.Achieves world holds) {weaker : Result → World → Prop}
    (weakens : ∀ result after, holds result after → weaker result after) :
    run.Achieves world weaker := by
  obtain ⟨result, after, ran, holding⟩ := achieves
  exact ⟨result, after, ran, weakens result after holding⟩

/-- What comes first is known. -/
theorem bind_of_outcome {result : Result} {between : World}
    (ran : run.outcome world = (.ok result, between))
    (second : (next result).Achieves between goal) :
    (run >>= next).Achieves world goal := by
  obtain ⟨last, after, ranNext, reached⟩ := second
  exact ⟨last, after, (outcome_bind_of_ok ran).trans ranNext, reached⟩

/-- Within a scope, where it does not matter what is in use. -/
theorem scope (achieves : run.Achieves world holds)
    (steady : ∀ result after held, holds result after → holds result { after with held }) :
    (Run.scope run).Achieves world holds := by
  obtain ⟨result, after, ran, holding⟩ := achieves
  exact ⟨result, { after with held := world.held }, by rw [outcome_scope, ran],
    steady _ _ _ holding⟩

end Run.Achieves

/-! ### The way out and back -/

namespace Bridge

/-- A script value goes to untyped host code and comes back, in use all the while. -/
def throughHost (calls : Calls) (engine : EngineId) (value : Script.Value) :
    ScriptRun Script.Value := scope do
  holdCells value.cells
  let out ← held (toHostValue engine value)
  toScript calls engine out .object

end Bridge

/-- What the proxy stands for leads back to it, or to another box of the same. -/
def Proxy.LeadsBack (options : Options) (store : Store) (proxy : Proxy) : Prop :=
  match proxy.target with
  | .reference value =>
    proxy.view = none ∧ proxy.flags = .none ∧
      match value with
      | .object _ | .box _ => True
      | .delegate cell => ownFunction? store proxy.engine cell = none
      | .array _ => options.arraysByValue = false
      | _ => False
  | .type _ => proxy.flags = .none
  | .boxed value =>
    match value with
    | .enumeration _ _ => True
    | .struct _ _ => value.hasNaN = false
    | _ => False

/-- The value has an untyped form on the host side that script is given back as the same. -/
def World.Passes (world : World) (engine : EngineId) (value : Script.Value) : Prop :=
  match value with
  | .null => (world.engine engine).options.nullExport = .null
  | .double number => number.isNaN = false
  | .date millis => millis.isNaN = false ∧ (world.engine engine).options.convertDates = false
  | .proxy cell => ∃ proxy, world.HasProxy engine cell proxy ∧
      proxy.LeadsBack (world.engine engine).options world.store
  | .wrappedNull _ => False
  | _ => True

/-- No number in the value is a NaN. -/
def Script.Value.IsProper : Script.Value → Prop
  | .double number | .date number => number.isNaN = false
  | _ => True

namespace Bridge

variable {calls : Calls} {engine : EngineId} {world between : World} {value : Script.Value}

/-! ### Equality -/

/-- A value without NaN is strictly equal to itself. -/
theorem strictEquals_self (proper : value.IsProper) (world : World) :
    world.strictEquals value value = true := by
  unfold World.strictEquals
  cases value with
  | undefined | null | wrappedNull _ => rfl
  | int value => exact Number.Binary.equals_self (Number.Binary.isNaN_ofInt _ value.toInt)
  | double number => exact Number.Binary.equals_self proper
  | date millis => exact Number.Binary.equals_self proper
  | proxy cell =>
    dsimp only
    rw [beq_self_eq_true, Bool.true_or]
  | _ => exact beq_self_eq_true _

/-! ### Forms on the host side -/

/-- The kind that an integer of script counts as holds it. -/
theorem contains_scriptIntKind (value : Int64) :
    (Conversion.scriptIntKind value.toInt).contains value.toInt = true := by
  unfold Conversion.scriptIntKind
  split
  · next held => exact held
  · show (decide _ && decide _) = true
    rw [Bool.and_eq_true, decide_eq_true_eq, decide_eq_true_eq]
    exact ⟨value.le_toInt, Int.le_sub_one_of_lt value.toInt_lt⟩

/-- An integer of script has a kind that holds it. -/
theorem plainInt_eq (value : Int64) :
    ∃ integer : Number.Integer, plainInt value.toInt = .integer integer ∧
      integer.value = value.toInt := by
  have held := contains_scriptIntKind value
  have made : Number.Integer.ofInt? (Conversion.scriptIntKind value.toInt) value.toInt =
      some ⟨_, value.toInt, held⟩ := Number.Integer.ofInt?_eq_some_iff.mpr ⟨held, rfl, rfl⟩
  have scalar : Value.ofInt? (Conversion.scriptIntKind value.toInt) value.toInt =
      (Number.Integer.ofInt? (Conversion.scriptIntKind value.toInt) value.toInt).map .integer := by
    unfold Conversion.scriptIntKind
    split <;> rfl
  refine ⟨⟨_, value.toInt, held⟩, ?_, rfl⟩
  unfold plainInt
  rw [scalar, made]
  rfl

theorem exportInt_toInt (value : Int64) : exportInt value.toInt = .int value := by
  unfold exportInt
  rw [if_pos value.toInt_lt, Int64.ofInt_toInt]

/-- What goes through comes back as itself. -/
def ComesBackAs (calls : Calls) (engine : EngineId) (out : Value) (value : Script.Value)
    (world : World) : Prop :=
  (toScript calls engine out .object).Achieves world fun back _ => back = value

/-- What comes back from the form of a value has gone through. -/
theorem throughHost_of_form {out : Value} {ready : World}
    (proper : value.IsProper)
    (goes : (toHostValue engine value : ScriptRun Value).outcome (world.holding value.cells) =
      (.ok out, ready))
    (comes : ComesBackAs calls engine out value (ready.holding out.cells)) :
    (throughHost calls engine value).Achieves world fun back after =>
      after.strictEquals value back = true := by
  refine .scope (.bind_of_outcome (outcome_holdCells _ _) ?_) fun _ _ _ => id
  refine .bind_of_outcome (outcome_held_eq_ok.mpr ⟨ready, goes, rfl⟩) ?_
  obtain ⟨_, after, came, rfl⟩ := comes
  exact ⟨_, after, came, strictEquals_self proper after⟩

/-! ### What is carried -/

/-- What is no proxy is adopted as it is. -/
theorem outcome_adopt_of_plain (plain : ∀ cell, value ≠ .proxy cell) :
    (adopt engine value).outcome world = (.ok value, world.holding value.cells) := by
  unfold adopt
  rw [outcome_bind_of_ok (outcome_holdCells _ _)]
  cases value with
  | proxy cell => exact absurd rfl (plain cell)
  | _ => rfl

/-- What a handle carries comes back from it. -/
theorem comesBack_of_handle {handle : CellId} (found : world.store.handle? handle = some value)
    (plain : ∀ cell, value ≠ .proxy cell) :
    ComesBackAs calls engine (.script handle) value world := by
  unfold ComesBackAs toScript
  refine .scope (.bind_of_outcome (outcome_holdCells _ _) ?_) fun _ _ _ => id
  refine .bind_of_outcome (outcome_observe _ _) (.bind_of_outcome (outcome_readStore _ _) ?_)
  rw [World.holding_store, found]
  exact ⟨_, _, outcome_adopt_of_plain plain, rfl⟩

/-- What has no form on the host side is carried through. -/
theorem throughHost_of_carried (plain : ∀ cell, value ≠ .proxy cell)
    (proper : value.IsProper)
    (carried : (toHostValue engine value : ScriptRun Value).outcome (world.holding value.cells) =
      (carry value).outcome (world.holding value.cells)) :
    (throughHost calls engine value).Achieves world fun back after =>
      after.strictEquals value back = true := by
  have found : (world.store.create (.handle value)).1.handle? world.store.cells.size =
      some value := by
    unfold Store.handle?
    rw [Store.get?_create_size]
  exact throughHost_of_form proper (carried.trans rfl) (comesBack_of_handle found plain)

/-! ### Room -/

/-- Burying cells makes room. -/
theorem isOverLimit_of_burials (burials : Burials world between)
    (room : world.isOverLimit = false) : between.isOverLimit = false := by
  induction burials with
  | refl => exact room
  | @tail earlier _ _ last inductionHypothesis =>
    obtain @⟨cell, contents, living, _⟩ := last
    have limit : (earlier.bury cell).heapLimit = earlier.heapLimit := by
      rw [bury_of_get? living]
      cases contents <;> rfl
    have used : (earlier.bury cell).heap.used ≤ earlier.heap.used := by
      rw [bury_of_get? living]
      cases contents <;> simp only [World.leaveTicket, World.modifyEngine, HeapCounters.died,
        HeapCounters.used] <;> omega
    unfold World.isOverLimit at *
    rw [limit]
    cases most : earlier.heapLimit with
    | none => rfl
    | some most =>
      rw [most] at inductionHypothesis
      rw [decide_eq_false_iff_not, Nat.not_lt] at inductionHypothesis ⊢
      exact Nat.le_trans used inductionHypothesis

theorem held_of_burials (burials : Burials world between) : between.held = world.held := by
  induction burials with
  | refl => rfl
  | tail _ last inductionHypothesis =>
    obtain @⟨cell, contents, living, _⟩ := last
    rw [bury_of_get? living, ← inductionHypothesis]
    cases contents <;> rfl

/-- Where the heap is within its limit there is room, after burials if need be. -/
theorem reserve_achieves (room : world.isOverLimit = false) :
    (reserve engine).Achieves world fun _ after => Burials world after := by
  have burials := burials_weighed world
  exact ⟨(), world.weighed, outcome_reserve_of_room (isOverLimit_of_burials burials room), burials⟩

/-! ### Proxies -/

/-- The proxy is in use, its engine lives and has its record in order, and the heap is within its
limit. -/
structure InService (world : World) (engine : EngineId) (cell : CellId) (proxy : Proxy) :
    Prop where
  kept : world.IsKept engine
  enabled : (world.engine engine).isDisposed = false
  room : world.isOverLimit = false
  has : world.HasProxy engine cell proxy
  used : cell ∈ world.held

namespace InService

variable {cell : CellId} {proxy : Proxy} (serves : InService world engine cell proxy)

include serves

theorem holding (cells : List CellId) : InService (world.holding cells) engine cell proxy where
  kept := serves.kept.step (.held world _)
  enabled := serves.enabled
  room := serves.room
  has := serves.has
  used := World.mem_held_holding.mpr (.inr serves.used)

theorem burials (burials : Burials world between) : InService between engine cell proxy where
  kept := serves.kept.steps (Burials.steps burials)
  enabled := (isDisposed_of_steps (Burials.steps burials) serves.kept).trans serves.enabled
  room := isOverLimit_of_burials burials serves.room
  has := ⟨((burials.keep serves.kept).1 cell (mem_anchors_of_held serves.used)).trans serves.has.1,
    serves.has.2⟩
  used := held_of_burials burials ▸ serves.used

/-- The proxy of a key is found again. -/
theorem findOrMake_achieves {Key : Type} [BEq Key] [LawfulBEq Key] {keyOf : Proxy → Option Key}
    {entries : ProxyCache → List (Key × CellId)} {key : Key} (keyed : keyOf proxy = some key)
    (finds : ∀ {between}, Burials world between →
      between.store.Finds engine keyOf (entries (world.engine engine).cache))
    (add : ProxyCache → CellId → ProxyCache) {other : Proxy} (owned : other.engine = engine) :
    (findOrMake entries add key other).Achieves world fun found _ => found = cell := by
  obtain ⟨between, reaped, ran⟩ := outcome_findOrMake entries add key other world
  have burials := burials_of_reaped reaped
  have has := (serves.burials burials).has
  have found := (finds burials).find?_eq_some_iff.mpr ⟨proxy, has.1, has.2, keyed⟩
  rw [owned, found] at ran
  exact ⟨cell, _, ran, rfl⟩

/-- The proxy of a value is found again. -/
theorem findReference_achieves {value : Value} (stands : proxy.target = .reference value) :
    (findReference engine value proxy.view proxy.flags).Achieves world
      fun found _ => found = cell := by
  obtain ⟨-, target, identity, weak, -⟩ :=
    (serves.kept.serves serves.enabled).rooted cell proxy value serves.has.1 serves.has.2 stands
  have keyed : ReferenceKey.of? value proxy.view proxy.flags =
      some ⟨target, proxy.view, proxy.flags.identity⟩ :=
    ReferenceKey.of?_eq_some.mpr ⟨weak, target, identity, rfl⟩
  have key : proxy.referenceKey? = some ⟨target, proxy.view, proxy.flags.identity⟩ := by
    unfold Proxy.referenceKey?
    rw [stands]
    exact keyed
  rw [findReference_eq]
  refine .bind_of_outcome (outcome_requireCache serves.enabled) ?_
  rw [keyed]
  refine serves.findOrMake_achieves key (fun {between} burials => ?_) _ rfl
  have later := serves.burials burials
  rw [← (burials.keep serves.kept).2.2.1]
  exact (later.kept.serves later.enabled).references

/-- So is the proxy of a type. -/
theorem findHandle_achieves {type : TypeRef} (stands : proxy.target = .type type) :
    (findHandle engine type proxy.flags).Achieves world fun found _ => found = cell := by
  have key : proxy.handleKey? = some ⟨type, proxy.flags.identity⟩ := by
    unfold Proxy.handleKey?
    rw [stands]
  unfold findHandle
  refine .bind_of_outcome (outcome_requireCache serves.enabled) ?_
  refine serves.findOrMake_achieves key (fun {between} burials => ?_) _ rfl
  have later := serves.burials burials
  rw [← (burials.keep serves.kept).2.2.2]
  exact (later.kept.serves later.enabled).handles

/-! ### What proxies stand for -/

/-- What the proxy stands for goes out. -/
theorem outcome_toHostValue :
    (toHostValue engine (.proxy cell) : ScriptRun Value).outcome world =
      (.ok proxy.target.value, world.holding proxy.target.value.cells) := by
  unfold toHostValue
  rw [outcome_bind_of_ok (outcome_observe _ _), serves.kept.targetOf serves.enabled serves.has]
  rfl

/-- A reference seen as it is, without flags, leads back to its proxy. -/
theorem asReference_achieves {value : Value} (stands : proxy.target = .reference value)
    (unviewed : proxy.view = none) (plain : proxy.flags = .none) :
    (do return .proxy (← proxyReference engine value .object .none) :
      ScriptRun Script.Value).Achieves world fun back _ => back = .proxy cell := by
  have found : (proxyReference engine value .object .none).Achieves world
      fun found _ => found = cell := by
    refine .bind_of_outcome (outcome_holdCells _ _) (.bind_of_outcome (outcome_readStore _ _) ?_)
    have serves := serves.holding value.cells
    refine (reserve_achieves serves.room).bind fun _ between burials => ?_
    have found := (serves.burials burials).findReference_achieves stands
    rwa [unviewed, plain] at found
  exact found.bind fun found after same => .pure (congrArg _ same)

/-- A type without flags leads back to its proxy. -/
theorem asHandle_achieves {type : TypeRef} (stands : proxy.target = .type type)
    (plain : proxy.flags = .none) :
    (do reserve engine; return .proxy (← findHandle engine type .none) :
      ScriptRun Script.Value).Achieves world fun back _ => back = .proxy cell := by
  refine (reserve_achieves serves.room).bind fun _ between burials => ?_
  have found := (serves.burials burials).findHandle_achieves stands
  rw [plain] at found
  exact found.bind fun found after same => .pure (congrArg _ same)

/-- A box leads to another one of the same. -/
theorem asBoxed_achieves {value : Value} (stands : proxy.target = .boxed value)
    (proper : value.hasNaN = false) :
    (do return .proxy (← boxValue engine value .none) : ScriptRun Script.Value).Achieves world
      fun back after => after.strictEquals (.proxy cell) back = true := by
  have made : (boxValue engine value .none).Achieves world fun made after =>
      (after.store.proxy cell).target = .boxed value ∧
        (after.store.proxy made).target = .boxed value := by
    refine .bind_of_outcome (outcome_holdCells _ _) ?_
    have serves := serves.holding value.cells
    refine (reserve_achieves serves.room).bind fun _ between burials => ?_
    have later := serves.burials burials
    refine .bind_of_outcome (outcome_requireCache later.enabled) ⟨_, _, outcome_create _ _, ?_, ?_⟩
    · have found : (between.store.create (.proxy ⟨engine, .boxed value, none, .none⟩)).1.get? cell =
          some (.proxy proxy) := by
        rw [Store.get?_create_of_lt (Store.lt_size_of_get? later.has.1)]
        exact later.has.1
      exact (congrArg Proxy.target (Store.proxy_of_get? found)).trans stands
    · exact congrArg Proxy.target (Store.proxy_of_get? (Store.get?_create_size _ _))
  refine made.bind fun made after same => .pure ?_
  unfold World.strictEquals
  dsimp only
  rw [same.1, same.2]
  dsimp only
  rw [Value.equals_self proper, Bool.or_true]

/-- What a proxy that leads back stands for comes back as the proxy, or as an equal box. -/
theorem comesBack {calls : Calls}
    (back : proxy.LeadsBack (world.engine engine).options world.store) :
    (toScript calls engine proxy.target.value .object).Achieves world fun back after =>
      after.strictEquals (.proxy cell) back = true := by
  have proper : (Script.Value.proxy cell).IsProper := trivial
  have same (found : Script.Value) (after : World) (same : found = .proxy cell) :
      after.strictEquals (.proxy cell) found = true := same ▸ strictEquals_self proper after
  have serves := serves.holding proxy.target.value.cells
  obtain ⟨owner, target, view, flags⟩ := proxy
  unfold toScript
  refine .scope (.bind_of_outcome (outcome_holdCells _ _) ?_) fun _ _ _ => id
  refine .bind_of_outcome (outcome_observe _ _) ?_
  cases target with
  | type type => exact (serves.asHandle_achieves rfl back).weaken same
  | boxed value =>
    cases value with
    | enumeration => exact serves.asBoxed_achieves rfl rfl
    | struct => exact serves.asBoxed_achieves rfl back
    | _ => exact back.elim
  | reference value =>
    obtain ⟨unviewed, plain, kind⟩ := back
    have asReference := (serves.asReference_achieves rfl unviewed plain).weaken same
    cases value with
    | object | box => exact asReference
    | array array =>
      have byReference : ((world.holding [array]).engine engine).options.arraysByValue = false :=
        kind
      dsimp only [ProxyTarget.value, Value.cells]
      rw [byReference, if_neg Bool.false_ne_true]
      exact asReference
    | delegate delegate =>
      refine .bind_of_outcome (outcome_readStore _ _) ?_
      rw [show ownFunction? _ engine delegate = none from serves.has.2 ▸ kind]
      exact asReference
    | _ => exact kind.elim

end InService

/-! ### Whatever passes -/

/-- A proxy that leads back goes out as what it stands for. -/
theorem throughHost_of_proxy {calls : Calls} {cell : CellId} {proxy : Proxy}
    (kept : world.IsKept engine) (enabled : (world.engine engine).isDisposed = false)
    (room : world.isOverLimit = false) (has : world.HasProxy engine cell proxy)
    (back : proxy.LeadsBack (world.engine engine).options world.store) :
    (throughHost calls engine (.proxy cell)).Achieves world fun back after =>
      after.strictEquals (.proxy cell) back = true := by
  have serves : InService (world.holding [cell]) engine cell proxy :=
    ⟨kept.step (.held world _), enabled, room, has, World.mem_held_holding.mpr
      (.inl List.mem_cons_self)⟩
  refine .scope (.bind_of_outcome (outcome_holdCells _ _) ?_) fun _ _ _ => id
  refine .bind_of_outcome (outcome_held_eq_ok.mpr ⟨_, serves.outcome_toHostValue, rfl⟩) ?_
  have serves := (serves.holding proxy.target.value.cells).holding
    (HoldsCells.cells proxy.target.value)
  exact serves.comesBack back

/-- A value that has a form of its own on the host side is marshaled as itself. -/
theorem throughHost_of_scalar {calls : Calls} {out : Value} (proper : value.IsProper)
    (goes : ∀ world, (toHostValue engine value : ScriptRun Value).outcome world = (.ok out, world))
    (comes : ∀ world, (toScript calls engine out .object).outcome world =
      (.ok value, world)) :
    (throughHost calls engine value).Achieves world fun back after =>
      after.strictEquals value back = true :=
  throughHost_of_form proper (goes _) ⟨_, _, comes _, rfl⟩

end Bridge

/-! ### Round trips -/

/-- On an engine whose record of proxies is in order, which is not disposed and whose heap is within
its limit, a value that has an untyped form goes through host code and comes back strictly equal to
itself. -/
theorem values_pass_through_host (calls : Calls) {engine : EngineId} {world : World}
    {value : Script.Value} (kept : world.IsKept engine)
    (enabled : (world.engine engine).isDisposed = false) (room : world.isOverLimit = false)
    (passes : world.Passes engine value) :
    (throughHost calls engine value).Achieves world fun back after =>
      after.strictEquals value back = true := by
  cases value with
  | undefined => exact throughHost_of_scalar trivial (fun _ => rfl) fun _ => rfl
  | null =>
    refine throughHost_of_form trivial rfl ⟨_, _, rfl, ?_⟩
    show exportNull (world.engine engine).options .object = .null
    unfold exportNull
    rw [show (world.engine engine).options.nullExport = .null from passes]
    dsimp only [TypeRef.underlying]
    rw [Bool.not_true, Bool.and_false, if_neg Bool.false_ne_true]
  | bool flag => exact throughHost_of_scalar trivial (fun _ => rfl) fun _ => rfl
  | int number =>
    obtain ⟨integer, plain, same⟩ := plainInt_eq number
    have goes (world : World) : (toHostValue engine (.int number) : ScriptRun Value).outcome world =
        (.ok (.integer integer), world) := congrArg (fun out => (Except.ok out, world)) plain
    refine throughHost_of_scalar trivial goes fun world => ?_
    show (Except.ok (exportInt integer.value), world) = _
    rw [same, exportInt_toInt]
  | double number => exact throughHost_of_scalar passes (fun _ => rfl) fun _ => rfl
  | string text => exact throughHost_of_scalar trivial (fun _ => rfl) fun _ => rfl
  | date millis =>
    refine throughHost_of_carried nofun passes.1 ?_
    have asObjects : ((world.holding []).engine engine).options.convertDates = false := passes.2
    unfold toHostValue Run.engine
    dsimp only [Script.Value.cells]
    rw [outcome_bind_of_ok (outcome_observe _ _), asObjects]
  | array | object | function | member =>
    exact throughHost_of_carried nofun trivial rfl
  | buffer cell => exact throughHost_of_scalar trivial (fun _ => rfl) fun _ => rfl
  | view view => exact throughHost_of_scalar trivial (fun _ => rfl) fun _ => rfl
  | proxy cell =>
    obtain ⟨proxy, has, back⟩ := passes
    exact throughHost_of_proxy kept enabled room has back
  | wrappedNull type => exact passes.elim

/-- An engine on a heap with a limit, where nothing has been made yet. -/
def World.withLimit : World where
  engines := #[Engine.new "main" {} none]
  heapLimit := some 4096

theorem World.withLimit_hasFreshRecord : withLimit.HasFreshRecord 0 :=
  .of_no_cells Nat.zero_lt_one rfl rfl rfl

/-- An object that has a proxy goes through as that proxy. -/
theorem values_pass_through_host_of_proxy :
    let made : List CacheCall :=
      [.make (.object { type := 0 }), .reference (.object 0) none .none]
    let world := CacheCall.afterAll 0 .withLimit made
    world.IsKept 0 ∧ (world.engine 0).isDisposed = false ∧ world.isOverLimit = false ∧
      world.Passes 0 (.proxy 1) ∧
        (throughHost .exhausted 0 (.proxy 1)).Achieves world fun back after =>
          after.strictEquals (.proxy 1) back = true := by
  intro made world
  have fresh := World.withLimit_hasFreshRecord
  have kept : world.IsKept 0 := (CacheCall.afterAll_spec made fresh.isKept fresh.settled).1
  have passes : world.Passes 0 (.proxy 1) :=
    ⟨⟨0, .reference (.object 0), none, .none⟩, ⟨rfl, rfl⟩, rfl, rfl, trivial⟩
  exact ⟨kept, rfl, rfl, passes, values_pass_through_host .exhausted kept rfl rfl passes⟩

end ScriptBridge
