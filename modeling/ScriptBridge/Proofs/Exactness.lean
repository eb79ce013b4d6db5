/-
This file shows that conversions to an integral kind are exact. Script integers,
boxed integers, characters, decimals and binary numbers without their fraction, and
the bits of flags together, become exactly the integer that they amount to, where
the kind holds it, and are an overflow elsewhere; nothing is changed by a conversion
that fails. Helpers box the result, which is refused only where the engine is
disposed or the heap is full.
-/

import ScriptBridge.Proofs.Changes
import ScriptBridge.Proofs.Marshaling
import ScriptBridge.Proofs.Truncation

namespace ScriptBridge

open Run Bridge Host Number

/-! ### Integral kinds -/

namespace Conversion

/-- Does the conversion give exactly the integer in the kind where the kind holds it, and an
overflow elsewhere? -/
structure IsExact (kind : Kind) (value : Int) (converting : Converting) : Prop where
  inside : ∀ held : kind.contains value = true, converting = .ok (.integer ⟨kind, value, held⟩)
  outside : kind.contains value = false → ∃ text, converting = .error (.overflow text kind.name)

variable {kind : Kind} {value : Int}

theorem ofInt?_of_integral (integral : kind.isIntegral = true) (value : Int) :
    Value.ofInt? kind value = (Integer.ofInt? kind value).map .integer := by
  cases kind <;> first | rfl | cases integral

/-- Whatever an integer came from, an integral kind takes it exactly or not at all. -/
theorem isExact_ofInt? (integral : kind.isIntegral = true) (value : Int) (text : String) :
    IsExact kind value (match Value.ofInt? kind value with
      | some converted => .ok converted
      | none => .error (Conversion.outside text kind)) := by
  rw [ofInt?_of_integral integral]
  unfold Integer.ofInt?
  constructor
  · intro held
    rw [dif_pos held]
    rfl
  · intro beyond
    rw [dif_neg (Bool.eq_false_iff.mp beyond)]
    exact ⟨text, rfl⟩

theorem ofInt_isExact (integral : kind.isIntegral = true) (value : Int) :
    IsExact kind value (ofInt value kind) := isExact_ofInt? integral value _

theorem isIntegral_kind (integer : Integer) : integer.kind.isIntegral = true := by
  obtain ⟨kind, value, held⟩ := integer
  cases kind <;> first | rfl | exact absurd held Bool.false_ne_true

/-- A scalar of an integral kind is converted as the integer it is. -/
theorem ofScalar_integer (integer : Integer) (kind : Kind) :
    ofScalar (.integer integer) integer.kind kind = ofInt integer.value kind := by
  unfold ofScalar
  by_cases same : integer.kind = kind
  · subst same
    rw [if_pos (beq_self_eq_true _)]
    exact ((ofInt_isExact (isIntegral_kind integer) integer.value).inside integer.held).symm
  · rw [if_neg (mt beq_iff_eq.mp same)]

theorem ofScalar_isExact (integral : kind.isIntegral = true) (integer : Integer) :
    IsExact kind integer.value (ofScalar (.integer integer) integer.kind kind) := by
  rw [ofScalar_integer]
  exact ofInt_isExact integral integer.value

theorem ofDoubleTruncating_isExact (integral : kind.isIntegral = true) {number : Double}
    (finite : number.isFinite = true) :
    IsExact kind number.truncate (ofDoubleTruncating number kind) := by
  unfold ofDoubleTruncating
  rw [integral, finite]
  exact isExact_ofInt? integral number.truncate _

end Conversion

open Conversion

/-! ### What values amount to -/

/-- The integer that a host value amounts to: a character is its code point, and a number loses its
fraction. -/
inductive Host.Value.Amounts : Value → Int → Prop
  | integer (integer : Integer) : Amounts (.integer integer) integer.value
  | char (character : Char) : Amounts (.char character) character.toNat
  | decimal (decimal : Decimal) :
      Amounts (.decimal decimal) (decimal.signedMantissa.tdiv (10 ^ decimal.scale))
  | single {number : Single} (finite : number.isFinite = true) :
      Amounts (.single number) (number.signedUnits.tdiv (2 ^ Format.single.unitShift))
  | double {number : Double} (finite : number.isFinite = true) :
      Amounts (.double number) (number.signedUnits.tdiv (2 ^ Format.double.unitShift))

/-- Is the script value a proxy that leads to the host value? -/
def World.Leads (world : World) (script : Script.Value) (value : Value) : Prop :=
  ∃ cell, script = .proxy cell ∧ world.targetOf cell = .ok value

theorem World.Leads.grows {world after : World} {script : Script.Value} {value : Value}
    (leads : world.Leads script value) (grows : Grows world after) : after.Leads script value := by
  obtain ⟨cell, rfl, target⟩ := leads
  exact ⟨cell, rfl, grows.targetOf target⟩

/-- The integer that a script value amounts to, as a number or through a proxy. -/
inductive World.Amounts (world : World) : Script.Value → Int → Prop
  | int (number : Int64) : Amounts world (.int number) number.toInt
  | double {number : Double} (finite : number.isFinite = true) :
      Amounts world (.double number) (number.signedUnits.tdiv (2 ^ Format.double.unitShift))
  | boxed {script : Script.Value} {host : Value} {value : Int} (leads : world.Leads script host)
      (amounts : host.Amounts value) : Amounts world script value

variable {world : World} {engine : EngineId} {kind : Kind} {value : Int}

/-- What amounts to an integer holds no cells. -/
theorem Host.Value.Amounts.cells {host : Value} (amounts : host.Amounts value) :
    host.cells = [] := by
  cases amounts <;> unfold Value.cells <;> rfl

namespace Binding

theorem coerceScalar?_isExact (integral : kind.isIntegral = true) {host : Value}
    (amounts : host.Amounts value) :
    ∃ converting, coerceScalar? host kind = some converting ∧ IsExact kind value converting := by
  cases amounts with
  | integer integer => exact ⟨_, rfl, ofScalar_isExact integral integer⟩
  | char character => exact ⟨_, rfl, ofInt_isExact integral character.toNat⟩
  | decimal decimal =>
    rw [← decimal.truncate_eq]
    exact ⟨_, if_pos integral, isExact_ofInt? integral decimal.truncate _⟩
  | @single number finite =>
    rw [← number.truncate_eq, ← Single.truncate_toDouble finite]
    exact ⟨_, if_pos integral,
      ofDoubleTruncating_isExact integral (Single.units_toDouble finite).2.2⟩
  | @double number finite =>
    rw [← number.truncate_eq]
    exact ⟨_, if_pos integral, ofDoubleTruncating_isExact integral finite⟩

/-- The host value that a proxy leads to is in use from then on. -/
theorem outcome_toHostValue_of_leads {Failure : Type} {script : Script.Value} {host : Value}
    (leads : world.Leads script host) :
    (toHostValue engine script : Run Failure Value).outcome world =
      (.ok host, world.holding host.cells) := by
  obtain ⟨cell, rfl, target⟩ := leads
  unfold toHostValue
  rw [outcome_bind_of_ok (outcome_observe _ _), target]
  rfl

/-- A value without cells leaves everything as it is. -/
theorem outcome_held_toHostValue_of_leads {Failure : Type} {script : Script.Value} {host : Value}
    (leads : world.Leads script host) (plain : host.cells = []) :
    (held (toHostValue engine script) : Run Failure Value).outcome world = (.ok host, world) := by
  unfold held
  rw [outcome_bind_of_ok (outcome_toHostValue_of_leads leads), outcome_hold]
  show (_, (world.holding host.cells).holding host.cells) = _
  rw [plain]
  rfl

/-- A conversion that was made settles a coercion. -/
theorem outcome_coerced (script : Script.Value) (kind : Number.Kind) (converting : Converting)
    (world : World) :
    (match some converting with
      | some (.ok number) => pure number
      | some (.error error) => raise (.argumentConversion error)
      | none => do cannotConvert (← describe script) kind.name : ScriptRun Value).outcome world =
    ((match converting with
      | .ok number => .ok number
      | .error error => .error (.raised (.argumentConversion error))), world) := by
  cases converting <;> rfl

/-- A coercion gives what the conversion of the integer gives, and changes nothing. -/
theorem outcome_coerce (engine : EngineId) {script : Script.Value}
    (integral : kind.isIntegral = true) (amounts : world.Amounts script value) :
    ∃ converting, IsExact kind value converting ∧ (coerce engine script kind).outcome world =
      ((match converting with
        | .ok number => .ok number
        | .error error => .error (.raised (.argumentConversion error))), world) := by
  cases amounts with
  | int number =>
    exact ⟨_, ofInt_isExact integral number.toInt, outcome_coerced (.int number) kind _ world⟩
  | @double number finite =>
    rw [← number.truncate_eq]
    exact ⟨_, ofDoubleTruncating_isExact integral finite,
      outcome_coerced (.double number) kind _ world⟩
  | @boxed _ host _ leads amounts =>
    obtain ⟨converting, coerced, isExact⟩ := coerceScalar?_isExact integral amounts
    refine ⟨converting, isExact, ?_⟩
    obtain ⟨cell, rfl, target⟩ := leads
    unfold coerce
    dsimp only
    rw [outcome_bind_of_ok (outcome_held_toHostValue_of_leads ⟨cell, rfl, target⟩ amounts.cells),
      coerced]
    exact outcome_coerced (.proxy cell) kind converting world

end Binding

/-! ### Boxing -/

/-- Is there room on the heap for a proxy of the engine, and is the engine not disposed? -/
structure World.HasRoom (world : World) (engine : EngineId) : Prop where
  enabled : (world.engine engine).isDisposed = false
  room : world.reap.isOverLimit = false

/-- The run gives a new proxy of the value, or it is refused because there is no room for one. -/
def Run.Boxes (run : ScriptRun Script.Value) (engine : EngineId) (world : World)
    (value : Value) : Prop :=
  (∃ cell after, run.outcome world = (.ok (.proxy cell), after) ∧
    after.targetOf cell = .ok value) ∨
  (¬world.HasRoom engine ∧ ∃ error after,
    run.outcome world = (.error (.raised error), after) ∧ error.IsRefusal)

namespace Bridge

theorem isDisposed_changeCache {change : ProxyCache → ProxyCache}
    (keeps : ∀ cache, (change cache).disposed = cache.disposed) (world : World)
    (engine other : EngineId) :
    ((world.changeCache engine change).engine other).isDisposed =
      (world.engine other).isDisposed :=
  World.part_modifyEngine (fun state => keeps state.cache) other

theorem isDisposed_sweep (engine : EngineId) (world : World) (other : EngineId) :
    (((sweep engine : ScriptRun Swept).outcome world).2.engine other).isDisposed =
      (world.engine other).isDisposed := by
  have drained (cache : ProxyCache) : cache.drain.1.disposed = cache.disposed := rfl
  have pruned (isLive : CellId → Bool) (cache : ProxyCache) :
      (cache.prune isLive).1.disposed = cache.disposed := rfl
  rw [outcome_sweep_world, isDisposed_changeCache (pruned _), (World.reap_spec _).1.isDisposed,
    isDisposed_changeCache drained, (World.reap_spec _).1.isDisposed]

theorem isOverLimit_reap (exceeded : world.weighed.isOverLimit = true) :
    world.reap.isOverLimit = true := by
  unfold World.weighed at exceeded
  split at exceeded
  · exact exceeded
  · next unlimited =>
    unfold World.isOverLimit at exceeded
    rw [Option.not_isSome_iff_eq_none.mp unlimited] at exceeded
    cases exceeded

/-- Looking for room disposes no engine. There is none only where the heap is over its limit. -/
theorem outcome_reserve (engine : EngineId) (world : World) :
    ∃ after, (∀ other, (after.engine other).isDisposed = (world.engine other).isDisposed) ∧
      ((reserve engine).outcome world = (.ok (), after) ∨
        world.reap.isOverLimit = true ∧ (reserve engine).outcome world =
          (.error (.raised (.plain "Error" "runtime heap limit exceeded")), after)) := by
  have steady := (burials_weighed world).isDisposed
  cases exceeded : world.weighed.isOverLimit with
  | false => exact ⟨world.weighed, steady, .inl (outcome_reserve_of_room exceeded)⟩
  | true =>
    have ended := outcome_reserve_of_full engine exceeded rfl
    refine ⟨_, fun other => (isDisposed_sweep engine _ other).trans (steady other), ?_⟩
    split at ended
    · exact .inr ⟨isOverLimit_reap exceeded, ended⟩
    · exact .inl ended

theorem targetOf_boxed {cell : CellId} {proxy : Proxy}
    (found : world.store.get? cell = some (.proxy proxy)) {value : Value}
    (boxed : proxy.target = .boxed value)
    (enabled : (world.engine proxy.engine).isDisposed = false) :
    world.targetOf cell = .ok value := by
  unfold World.targetOf Store.proxy
  simp only [found, enabled, boxed, Bool.false_eq_true, if_false]

/-- A proxy of an engine that is not disposed leads to what it was made for. -/
theorem outcome_makeBoxed (enabled : (world.engine engine).isDisposed = false) (value : Value)
    (flags : ItemFlags) :
    ∃ cell after, (makeBoxed engine value flags).outcome world = (.ok cell, after) ∧
      after.targetOf cell = .ok value := by
  let made : Proxy := ⟨engine, .boxed value, none, flags⟩
  let after : World := { (world.create (.proxy made)).1 with
    held := world.store.cells.size :: world.held }
  have found : after.store.get? world.store.cells.size = some (.proxy made) :=
    Store.get?_create_size _ _
  exact ⟨world.store.cells.size, after, outcome_bind_of_ok (outcome_requireCache enabled),
    targetOf_boxed found rfl enabled⟩

/-- A value without cells is boxed, or refused for lack of room. -/
theorem boxValue_boxes (value : Value) (plain : value.cells = []) (flags : ItemFlags) :
    (do return .proxy (← boxValue engine value flags) : ScriptRun Script.Value).Boxes engine world
      value := by
  have holds : (holdCells value.cells : ScriptRun Unit).outcome world = (.ok (), world) := by
    rw [plain]
    rfl
  obtain ⟨ready, steady, reserved⟩ := outcome_reserve engine world
  have boxed : (boxValue engine value flags).outcome world =
      (do reserve engine; makeBoxed engine value flags : ScriptRun CellId).outcome world := by
    unfold boxValue
    exact outcome_bind_of_ok holds
  rcases reserved with reserved | ⟨exceeded, refused⟩
  · cases enabled : (world.engine engine).isDisposed with
    | false =>
      obtain ⟨cell, after, made, target⟩ :=
        outcome_makeBoxed ((steady engine).trans enabled) value flags
      refine .inl ⟨cell, after, ?_, target⟩
      rw [outcome_bind_of_ok (boxed.trans ((outcome_bind_of_ok reserved).trans made))]
      rfl
    | true =>
      refine .inr ⟨fun room => ?_, disposedCache, ready, ?_, .inl rfl⟩
      · rw [room.enabled] at enabled
        cases enabled
      · refine outcome_bind_of_error ?_
        rw [boxed, outcome_bind_of_ok reserved]
        exact outcome_bind_of_error
          (outcome_requireCache_of_disposed ((steady engine).trans enabled))
  · refine .inr ⟨fun room => ?_, _, ready, ?_, .inr rfl⟩
    · rw [room.room] at exceeded
      cases exceeded
    · exact outcome_bind_of_error (boxed.trans (outcome_bind_of_error refused))

end Bridge

namespace Run.Boxes

variable {run other : ScriptRun Script.Value} {value : Value}

theorem of_eq (same : run.outcome world = other.outcome world)
    (boxes : other.Boxes engine world value) : run.Boxes engine world value := by
  unfold Run.Boxes at *
  rwa [same]

/-- A run that comes to a value without cells, which is then boxed. -/
theorem of_ok {giving : ScriptRun Value} {flags : ItemFlags}
    (ran : giving.outcome world = (.ok value, world)) (plain : value.cells = []) :
    (do return .proxy (← boxValue engine (← giving) flags) : ScriptRun Script.Value).Boxes engine
      world value :=
  .of_eq (outcome_bind_of_ok ran) (boxValue_boxes value plain flags)

/-- What is boxed in a scope is boxed. -/
theorem scope (boxes : run.Boxes engine world value) :
    (Run.scope run).Boxes engine world value := by
  rcases boxes with ⟨cell, after, ran, target⟩ | ⟨full, error, after, failed, refused⟩
  · refine .inl ⟨cell, { after with held := world.held }, ?_, target⟩
    rw [outcome_scope, ran]
  · refine .inr ⟨full, error, { after with held := world.held }, ?_, refused⟩
    rw [outcome_scope, failed]

end Run.Boxes

namespace Bridge

/-- Enumeration values go to script in boxes. -/
theorem toScript_boxes (calls : Calls) (key : TypeKey) (raw : Int) (declared : TypeRef) :
    (toScript calls engine (.enumeration key raw) declared).Boxes engine world
      (.enumeration key raw) :=
  .scope (.of_eq rfl (boxValue_boxes (.enumeration key raw) rfl .none))

/-! ### Declared kinds -/

/-- The conversion gives exactly the integer in the kind where the kind holds it, and an overflow
elsewhere. Either way nothing changes. -/
structure Converts (run : ConversionRun Converted) (world : World) (kind : Kind) (value : Int) :
    Prop where
  inside : ∀ held : kind.contains value = true, ∃ rule penalty, run.outcome world =
    (.ok ⟨.integer ⟨kind, value, held⟩, rule, penalty⟩, world)
  outside : kind.contains value = false → ∃ text, run.outcome world =
    (.error (.raised (.overflow text kind.name)), world)

theorem Converts.of_isExact {run : ConversionRun Converted} {converting : Converting} (rule : Rule)
    (penalty : Nat) (isExact : IsExact kind value converting)
    (ran : run.outcome world = (do return ⟨← ofExcept converting, rule, penalty⟩ :
      ConversionRun Converted).outcome world) : Converts run world kind value where
  inside held := by
    refine ⟨rule, penalty, ran.trans ?_⟩
    rw [isExact.inside held]
    rfl
  outside beyond := by
    obtain ⟨text, overflow⟩ := isExact.outside beyond
    refine ⟨text, ran.trans ?_⟩
    rw [overflow]
    rfl

/-- A script integer is converted to a kind, or to one that may be null. -/
theorem toHost_int_converts (integral : kind.isIntegral = true) (number : Int64)
    {target : TypeRef} (declared : target = .numeric kind ∨ target = .nullable (.numeric kind)) :
    Converts (toHost engine (.int number) target) world kind number.toInt := by
  have isExact := ofInt_isExact integral number.toInt
  refine .of_isExact (scriptIntRule number.toInt kind) (numericPenalty kind) isExact ?_
  rcases declared with rfl | rfl
  · rfl
  · rfl

theorem isAllowed_numericRule {source : Kind} (left : source.isIntegral = true)
    (right : kind.isIntegral = true) : (numericRule source kind).isAllowed = true := by
  unfold numericRule
  rw [left, right]
  dsimp only
  split
  · rfl
  · split <;> rfl

theorem outcome_boxedValue?_of_leads {Failure : Type} {script : Script.Value} {host : Value}
    (leads : world.Leads script host) :
    (held (boxedValue? script) : Run Failure (Option Value)).outcome world =
      (.ok (some host), world.holding host.cells) := by
  obtain ⟨cell, rfl, target⟩ := leads
  show (Except.ok (world.targetOf cell).toOption,
    world.holding (HoldsCells.cells (world.targetOf cell).toOption)) = _
  rw [target]
  rfl

/-- What a proxy leads to is converted once it is in use. -/
theorem outcome_toHost_of_leads {script : Script.Value} {host : Value}
    (leads : world.Leads script host) (target : TypeRef) :
    (toHost engine script target).outcome world =
      (match target with
        | .nullable inner => toHost engine script inner
        | .object | .dynamic => do
          return ⟨← toHostValue engine script, .widening, boxPenalty target⟩
        | .numeric kind => toNumeric script (some host) kind
        | .named key => toNamed script (some host) key
        | .array element =>
          toArray (fun item => toHost engine item element) script (some host) element
        | .box inner => toBox script (some host) inner
        | plain => toPlain script (some host) plain).outcome (world.holding host.cells) := by
  have boxed : (held (boxedValue? script) : ConversionRun (Option Value)).outcome world =
      (.ok (some host), world.holding host.cells) := outcome_boxedValue?_of_leads leads
  obtain ⟨cell, rfl, -⟩ := leads
  rw [toHost]
  exact outcome_bind_of_ok boxed

/-- A value that is no proxy and not nullish is converted as what has nothing behind it. -/
theorem outcome_toHost_of_unproxied {script : Script.Value} (given : script.isNullish = false)
    (unproxied : ∀ cell, script ≠ .proxy cell) (target : TypeRef) :
    (toHost engine script target).outcome world =
      (match target with
        | .nullable inner => toHost engine script inner
        | .object | .dynamic => do
          return ⟨← toHostValue engine script, .widening, boxPenalty target⟩
        | .numeric kind => toNumeric script none kind
        | .named key => toNamed script none key
        | .array element =>
          toArray (fun item => toHost engine item element) script none element
        | .box inner => toBox script none inner
        | plain => toPlain script none plain).outcome world := by
  rw [toHost]
  cases script with
  | undefined | null | wrappedNull => cases given
  | proxy cell => exact absurd rfl (unproxied cell)
  | _ => rfl

/-- A boxed integer is converted to another integral kind. The rule between integral kinds allows
it, whatever their widths and signs are. -/
theorem toHost_boxed_converts (integral : kind.isIntegral = true) {script : Script.Value}
    {integer : Integer} (leads : world.Leads script (.integer integer)) :
    Converts (toHost engine script (.numeric kind)) world kind integer.value := by
  refine .of_isExact (numericRule integer.kind kind) (numericPenalty kind)
    (ofScalar_isExact integral integer) ?_
  have allowed : (numericRule integer.kind kind).isAllowed = true :=
    isAllowed_numericRule (isIntegral_kind integer) integral
  rw [outcome_toHost_of_leads leads]
  obtain ⟨cell, rfl, -⟩ := leads
  show (if !(numericRule integer.kind kind).isAllowed then _ else _ :
    ConversionRun Converted).outcome world = _
  rw [allowed]
  rfl

end Bridge

/-! ### Flags -/

namespace Binding

/-- The values of an enumeration whose values combine give the bits of any of them. -/
theorem outcome_combine {key : TypeKey} :
    ∀ {values : List Script.Value} {raws : List Int},
      List.Forall₂ (fun value raw => world.Leads value (.enumeration key raw)) values raws →
      (∀ raw ∈ raws, IsRaw raw) → ∀ {raw : Int}, IsRaw raw →
      (combine engine (some key) raw values).outcome world =
        (.ok (some key, raws.foldl Int.lor raw), world)
  | _, _, .nil, _, _, _ => rfl
  | _, _, .cons leads rest, allRaw, raw, isRaw => by
    have firstRaw := allRaw _ List.mem_cons_self
    unfold combine
    rw [outcome_bind_of_ok (outcome_types world), outcome_bind_of_ok
      (outcome_held_toHostValue_of_leads leads rfl)]
    dsimp only
    rw [if_pos (beq_self_eq_true key), bitsOfEither_eq isRaw firstRaw]
    exact outcome_combine rest (fun raw member => allRaw raw (List.mem_cons_of_mem _ member))
      (isRaw.lor firstRaw)

/-- The first value tells the enumeration. -/
theorem outcome_combine_of_flags {key : TypeKey} {values : List Script.Value} {raws : List Int}
    (flags : (world.store.types.type key).isFlags = true) (some_ : values ≠ [])
    (leads : List.Forall₂ (fun value raw => world.Leads value (.enumeration key raw)) values raws)
    (allRaw : ∀ raw ∈ raws, IsRaw raw) :
    (combine engine none 0 values).outcome world =
      (.ok (some key, raws.foldl Int.lor 0), world) := by
  have zero : IsRaw 0 := ⟨by decide, by decide⟩
  cases leads with
  | nil => exact absurd rfl some_
  | @cons first raw _ _ leads rest =>
    have firstRaw := allRaw raw List.mem_cons_self
    unfold combine
    rw [outcome_bind_of_ok (outcome_types world), outcome_bind_of_ok
      (outcome_held_toHostValue_of_leads leads rfl)]
    dsimp only
    rw [if_pos flags, bitsOfEither_eq zero firstRaw]
    exact outcome_combine rest (fun raw member => allRaw raw (List.mem_cons_of_mem _ member))
      (zero.lor firstRaw)

/-- A helper boxes what is made of an integer where the kind holds it. Elsewhere it fails with an
overflow that names the target, and nothing changes. -/
structure BoxesExactly (run : ScriptRun Script.Value) (engine : EngineId) (world : World)
    (kind : Kind) (name : String) (value : Int) (made : kind.contains value = true → Value) :
    Prop where
  inside : ∀ held : kind.contains value = true, run.Boxes engine world (made held)
  outside : kind.contains value = false → ∃ text, run.outcome world =
    (.error (.raised (.argumentConversion (.overflow text name))), world)

/-- A helper boxes what a coercion to the kind gives. -/
theorem boxesExactly_of_coerced (calls : Calls) {script : Script.Value}
    (coerced : ∃ converting, IsExact kind value converting ∧
      (coerce engine script kind).outcome world = ((match converting with
        | .ok number => .ok number
        | .error error => .error (.raised (.argumentConversion error))), world))
    (rest : List Script.Value) :
    BoxesExactly (runHelper calls engine (.number kind) (script :: rest)) engine world kind
      kind.name value fun held => .integer ⟨kind, value, held⟩ := by
  obtain ⟨converting, isExact, coerced⟩ := coerced
  constructor
  · intro held
    rw [isExact.inside held] at coerced
    exact .of_ok coerced rfl
  · intro beyond
    obtain ⟨text, overflow⟩ := isExact.outside beyond
    rw [overflow] at coerced
    exact ⟨text, outcome_bind_of_error coerced⟩

/-- Coercing to a kind gives the integer that a value amounts to. -/
theorem coercion_boxesExactly (calls : Calls) (integral : kind.isIntegral = true)
    {script : Script.Value} (amounts : world.Amounts script value) (rest : List Script.Value) :
    BoxesExactly (runHelper calls engine (.number kind) (script :: rest)) engine world kind
      kind.name value fun held => .integer ⟨kind, value, held⟩ :=
  boxesExactly_of_coerced calls (outcome_coerce engine integral amounts) rest

/-- Flags give the bits of any of the values. -/
theorem flags_boxesExactly (calls : Calls) (integral : kind.isIntegral = true) {key : TypeKey}
    (combines : (world.store.types.type key).kind = .enumeration kind true)
    {values : List Script.Value} {raws : List Int} (some_ : values ≠ [])
    (leads : List.Forall₂ (fun value raw => world.Leads value (.enumeration key raw)) values raws)
    (allRaw : ∀ raw ∈ raws, IsRaw raw) :
    BoxesExactly (runHelper calls engine .flags values) engine world kind
      (world.store.types.type key).name (raws.foldl Int.lor 0)
      fun _ => .enumeration key (raws.foldl Int.lor 0) := by
  have flags : (world.store.types.type key).isFlags = true := by
    unfold HostType.isFlags
    rw [combines]
  have underlying : (world.store.types.type key).underlying?.getD .int32 = kind := by
    unfold HostType.underlying?
    rw [combines]
    rfl
  generalize combined : raws.foldl Int.lor 0 = raw
  have checked : (runHelper calls engine .flags values).outcome world =
      (if ((Integer.ofInt? kind raw).map Value.integer).isSome then
        toScript calls engine (.enumeration key raw) (.named key)
      else raise (.argumentConversion
        (.overflow (toString raw) (world.store.types.type key).name)) :
        ScriptRun Script.Value).outcome world := by
    show (flagsOf calls engine values).outcome world = _
    unfold flagsOf
    rw [outcome_bind_of_ok (outcome_combine_of_flags flags some_ leads allRaw), combined]
    dsimp only
    rw [outcome_bind_of_ok (outcome_types world), underlying, ofInt?_of_integral integral]
  constructor
  · intro held
    refine .of_eq (checked.trans ?_) (toScript_boxes calls key raw (.named key))
    unfold Integer.ofInt?
    rw [dif_pos held]
    rfl
  · intro beyond
    refine ⟨toString raw, checked.trans ?_⟩
    unfold Integer.ofInt?
    rw [dif_neg (Bool.eq_false_iff.mp beyond)]
    rfl

end Binding

/-! ### Every path -/

open Binding

/-- In a world, an engine takes integers to a kind without losing anything, on every path. -/
structure World.TakesIntegers (world : World) (calls : Calls) (engine : EngineId) (kind : Kind) :
    Prop where
  /-- Script integers that are converted to the kind, or to the kind that may be null. -/
  numbers : ∀ (number : Int64) {target : TypeRef},
    target = .numeric kind ∨ target = .nullable (.numeric kind) →
      Converts (toHost engine (.int number) target) world kind number.toInt
  /-- Boxed integers of any kind that are converted to the kind. -/
  boxes : ∀ {script : Script.Value} {integer : Integer}, world.Leads script (.integer integer) →
    Converts (toHost engine script (.numeric kind)) world kind integer.value
  /-- Values that are coerced with the helper of the kind. -/
  coercions : ∀ {script : Script.Value} {value : Int} (rest : List Script.Value),
    world.Amounts script value →
      BoxesExactly (runHelper calls engine (.number kind) (script :: rest)) engine world kind
        kind.name value fun held => .integer ⟨kind, value, held⟩
  /-- Values of an enumeration over the kind that are combined. -/
  flags : ∀ {key : TypeKey} {values : List Script.Value} {raws : List Int},
    (world.store.types.type key).kind = .enumeration kind true → values ≠ [] →
      List.Forall₂ (fun value raw => world.Leads value (.enumeration key raw)) values raws →
        (∀ raw ∈ raws, IsRaw raw) →
          BoxesExactly (runHelper calls engine .flags values) engine world kind
            (world.store.types.type key).name (raws.foldl Int.lor 0)
            fun _ => .enumeration key (raws.foldl Int.lor 0)

/-- Whichever way an integer comes to an integral kind, it is taken exactly where the kind holds it,
and is an overflow elsewhere; a helper that boxes the result is refused only for lack of room. -/
theorem integers_are_taken_exactly (world : World) (calls : Calls) (engine : EngineId)
    {kind : Kind} (integral : kind.isIntegral = true) :
    world.TakesIntegers calls engine kind where
  numbers number _ declared := toHost_int_converts integral number declared
  boxes leads := toHost_boxed_converts integral leads
  coercions rest amounts := coercion_boxesExactly calls integral amounts rest
  flags combines some_ leads allRaw := flags_boxesExactly calls integral combines some_ leads allRaw

/-- The helper of the narrowest signed kind boxes its greatest integer, and the next one is an
overflow. -/
theorem integers_are_taken_exactly_int8 :
    let world : World := { engines := #[Engine.new "main" {} none] }
    let helper (number : Int64) := runHelper .exhausted 0 (.number .int8) [.int number]
    Kind.int8.isIntegral = true ∧
      (∃ cell after, (helper 127).outcome world = (.ok (.proxy cell), after) ∧
        after.targetOf cell = .ok (.integer ⟨.int8, 127, by decide⟩)) ∧
      ∃ text, (helper 128).outcome world =
        (.error (.raised (.argumentConversion (.overflow text "SByte"))), world) := by
  intro world helper
  have taken : world.TakesIntegers .exhausted 0 .int8 := integers_are_taken_exactly _ _ _ rfl
  have room : world.HasRoom 0 := ⟨rfl, rfl⟩
  refine ⟨rfl, ?_, (taken.coercions [] (.int 128)).outside rfl⟩
  exact ((taken.coercions [] (.int 127)).inside rfl).resolve_right fun refused => refused.1 room

/-- Where the heap is full, an integer that the kind holds is refused, and not for its size. -/
theorem coercion_refused_for_room :
    let type : Cell := .proxy ⟨0, .type .object, none, .none⟩
    let world : World := { (World.create { heapLimit := some 0 } type).1 with held := [0] }
    Kind.int32.contains 5 = true ∧
      ((runHelper .exhausted 0 (.number .int32) [.int 5]).outcome world).1 =
        .error (.raised (.plain "Error" "runtime heap limit exceeded")) :=
  ⟨rfl, rfl⟩

end ScriptBridge
