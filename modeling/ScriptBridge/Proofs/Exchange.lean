/-
This file takes host values to script. A value that a declared type names precisely
is represented in script by a primitive, by a proxy that stands for it, or, where
arrays go by value, by a script array of what represents its items. Whatever type a
value is marshaled with, what comes of it represents the value, or the engine is
disposed or the heap is full; and the value can still be exchanged afterwards.
-/

import ScriptBridge.Bridge.ToScript
import ScriptBridge.Conversion.Numeric
import ScriptBridge.Proofs.Marshaling
import ScriptBridge.Script.Module

namespace ScriptBridge

open Run World Bridge Host

/-! ### Equality of a value with itself -/

namespace Host.Value

mutual

/-- Is there a binary number that is not a number in the value? -/
def hasNaN : Value → Bool
  | single number => number.isNaN
  | double number => number.isNaN
  | struct _ fields => hasNaNAmong fields
  | _ => false

/-- Is there one in one of the values? -/
def hasNaNAmong : List Value → Bool
  | [] => false
  | value :: rest => value.hasNaN || hasNaNAmong rest

end

end Host.Value

theorem Number.Binary.equals_self {format : Number.Format} {number : Number.Binary format}
    (proper : number.isNaN = false) : number.equals number = true := by
  unfold equals
  simp only [proper, beq_self_eq_true, Bool.and_self, Bool.or_true, Bool.not_false]

namespace Host.Value

mutual

/-- A value equals itself unless a part of it is not a number. -/
theorem equals_self : ∀ {value : Value}, value.hasNaN = false → value.equals value = true
  | single _, proper | double _, proper => by
    unfold hasNaN at proper
    unfold equals
    exact Number.Binary.equals_self proper
  | struct _ fields, proper => by
    unfold hasNaN at proper
    unfold equals
    rw [beq_self_eq_true, equalsAll_self proper]
    rfl
  | undefined, _ | null, _ => by
    unfold equals
    rfl
  | integer _, _ | enumeration _ _, _ => by
    unfold equals
    rw [beq_self_eq_true, beq_self_eq_true]
    rfl
  | bool _, _ | decimal _, _ | char _, _ | string _, _ | dateTime _, _ | object _, _ | array _, _
  | buffer _, _ | view _, _ | delegate _, _ | type _, _ | box _, _ | script _, _ => by
    unfold equals
    exact beq_self_eq_true _

theorem equalsAll_self : ∀ {values : List Value}, hasNaNAmong values = false →
    equalsAll values values = true
  | [], _ => by
    unfold equalsAll
    rfl
  | value :: rest, proper => by
    unfold hasNaNAmong at proper
    rw [Bool.or_eq_false_iff] at proper
    unfold equalsAll
    rw [equals_self proper.1, equalsAll_self proper.2]
    rfl

end

end Host.Value

/-! ### Integers -/

namespace Number.Integer

/-- No kind holds less than 64 signed bits do. -/
theorem lower_le (integer : Integer) : -2 ^ 63 ≤ integer.value := by
  obtain ⟨kind, value, held⟩ := integer
  unfold Kind.contains Kind.range? at held
  cases kind <;> simp [Kind.isIntegral, Kind.isSigned, Kind.bits] at held <;> dsimp only <;> omega

/-- An integer is converted to its own kind as it is. -/
theorem ofInt_self (integer : Integer) :
    Conversion.ofInt integer.value integer.kind = .ok (.integer integer) := by
  have made : Integer.ofInt? integer.kind integer.value = some integer :=
    Integer.ofInt?_eq_some_iff.mpr ⟨integer.held, rfl, rfl⟩
  have scalar : Value.ofInt? integer.kind integer.value = some (.integer integer) := by
    obtain ⟨kind, value, held⟩ := integer
    cases kind <;> first
      | exact absurd held Bool.false_ne_true
      | exact congrArg (Option.map Value.integer) made
  unfold Conversion.ofInt
  rw [scalar]

end Number.Integer

/-! ### Values that may be exchanged -/

/-- Is it an enumeration value, a struct of numbers that are numbers, a living object, or a
delegate of host code? -/
def Store.HasInstance (store : Store) : Value → Prop
  | .enumeration _ _ => True
  | .struct type fields => (Value.struct type fields).hasNaN = false
  | .object cell => ∃ contents, store.get? cell = some contents ∧ contents.Suits (.object cell)
  | .delegate cell => ∃ type body, store.get? cell = some (.delegate type (.code body))
  | _ => False

/-- Does the declared type name the value precisely? Integers have to fit into 64 signed bits, and
moments are not to become script dates. Where arrays go by value their items matter too. -/
def Exchangeable (options : Options) (store : Store) : TypeRef → Value → Prop
  | .nullable inner, value => value = .null ∨ Exchangeable options store inner value
  | .array element, value => value = .null ∨ ∃ cell items, value = .array cell ∧
      store.get? cell = some (.hostArray element items) ∧
        (options.arraysByValue = true → ∀ item ∈ items.toList,
          Exchangeable options store element item)
  | .bool, value => ∃ flag, value = .bool flag
  | .numeric kind, value =>
    (∃ integer, value = .integer integer ∧ integer.kind = kind ∧ integer.value < 2 ^ 63) ∨
      ∃ number, value = .double number ∧ kind = .double ∧ number.isNaN = false
  | .char, value => ∃ character, value = .char character
  | .string, value => value = .null ∨ ∃ text, value = .string text
  | .dateTime, value => options.convertDates = false ∧ ∃ moment, value = .dateTime moment
  | .named key, value => (value = .null ∧ store.types.acceptsNull (.named key) = true) ∨
      (store.isInstance value (.named key) = true ∧ store.HasInstance value)
  | .buffer, value => value = .null ∨ ∃ cell, value = .buffer cell
  | .view, value => value = .null ∨ ∃ view, value = .view view
  | .handle, value => value = .null ∨ ∃ type, value = .type type
  | .box inner, value => value = .null ∨ ∃ cell content, value = .box cell ∧
      store.get? cell = some (.box inner content)
  | .object, _ | .dynamic, _ | .void, _ => False

/-- How many arrays a type nests. -/
def Host.TypeRef.arrayDepth : TypeRef → Nat
  | .nullable inner => inner.arrayDepth
  | .array element => element.arrayDepth + 1
  | _ => 0

/-- What the value leads to is as it was. -/
def Store.KeepsValue (earlier later : Store) (value : Value) : Prop :=
  later.types = earlier.types ∧ ∀ {cell contents}, earlier.Reaches value.cells cell →
    earlier.get? cell = some contents → later.get? cell = some contents

/-- The type of a value that refers to a living cell of its kind stays. -/
theorem Store.HasInstance.isInstance_eq {earlier later : Store} {value : Value} {type : TypeRef}
    (intact : earlier.HasInstance value) (keeps : earlier.KeepsValue later value) :
    later.isInstance value type = earlier.isInstance value type := by
  have sameType : later.typeOf value = earlier.typeOf value := by
    cases value with
    | enumeration _ _ | struct _ _ => rfl
    | object cell =>
      obtain ⟨contents, found, -⟩ := intact
      have foundStill := keeps.2 (.root (List.mem_singleton.mpr rfl)) found
      simp only [Store.typeOf, Store.objectType, found, foundStill]
    | delegate cell =>
      obtain ⟨_, _, found⟩ := intact
      have foundStill := keeps.2 (.root (List.mem_singleton.mpr rfl)) found
      simp only [Store.typeOf, Store.delegateType, found, foundStill]
    | _ => exact intact.elim
  unfold Store.isInstance
  rw [sameType, keeps.1]

theorem Store.HasInstance.stays {earlier later : Store} {value : Value}
    (intact : earlier.HasInstance value) (keeps : earlier.KeepsValue later value) :
    later.HasInstance value := by
  cases value with
  | enumeration _ _ | struct _ _ => exact intact
  | object cell =>
    obtain ⟨contents, found, suits⟩ := intact
    exact ⟨contents, keeps.2 (.root (List.mem_singleton.mpr rfl)) found, suits⟩
  | delegate cell =>
    obtain ⟨type, body, found⟩ := intact
    exact ⟨type, body, keeps.2 (.root (List.mem_singleton.mpr rfl)) found⟩
  | _ => exact intact.elim

/-- The items of an array are led to by the array. -/
theorem Store.KeepsValue.item {earlier later : Store} {cell : CellId} {element : TypeRef}
    {items : Array Value} {item : Value} (keeps : earlier.KeepsValue later (.array cell))
    (found : earlier.get? cell = some (.hostArray element items)) (member : item ∈ items.toList) :
    earlier.KeepsValue later item := by
  refine ⟨keeps.1, fun reached => keeps.2 (reached.trans fun part named => ?_)⟩
  have root : earlier.Reaches (Value.array cell).cells cell := .root (List.mem_singleton.mpr rfl)
  exact .part root found (List.mem_flatMap.mpr ⟨item, member, named⟩)

/-- A value can be exchanged for as long as what it leads to is as it was. -/
theorem Exchangeable.stays {options : Options} {earlier later : Store} {type : TypeRef}
    {value : Value} (exchangeable : Exchangeable options earlier type value)
    (keeps : earlier.KeepsValue later value) : Exchangeable options later type value := by
  induction type generalizing value with
  | nullable inner inductionHypothesis =>
    exact exchangeable.imp_right fun inside => inductionHypothesis inside keeps
  | array element inductionHypothesis =>
    refine exchangeable.imp_right ?_
    rintro ⟨cell, items, rfl, found, each⟩
    refine ⟨cell, items, rfl, keeps.2 (.root (List.mem_singleton.mpr rfl)) found, ?_⟩
    intro byValue item member
    exact inductionHypothesis (each byValue item member) (keeps.item found member)
  | named key =>
    rcases exchangeable with nulled | ⟨isInstance, intact⟩
    · exact .inl ⟨nulled.1, keeps.1 ▸ nulled.2⟩
    · exact .inr ⟨(intact.isInstance_eq keeps).trans isInstance, intact.stays keeps⟩
  | box inner _ =>
    refine exchangeable.imp_right ?_
    rintro ⟨cell, content, rfl, found⟩
    exact ⟨cell, content, rfl, keeps.2 (.root (List.mem_singleton.mpr rfl)) found⟩
  | _ => exact exchangeable

/-! ### What represents a value in script -/

/-- The primitive that a value becomes. -/
def primitive? : Value → Option Script.Value
  | .bool flag => some (.bool flag)
  | .integer integer => some (exportInt integer.value)
  | .double number => some (.double number)
  | .char character => some (.string character.toString)
  | .string text => some (.string text)
  | .buffer cell => some (.buffer cell)
  | .view view => some (.view view)
  | _ => none

/-- Does the value get a proxy? -/
def isProxied (byValue : Bool) : Value → Bool
  | .dateTime _ | .enumeration _ _ | .struct _ _ | .type _ | .object _ | .box _ | .delegate _ =>
    true
  | .array _ => !byValue
  | _ => false

/-- Does the script value represent the host value for the engine? -/
inductive Represents (byValue : Bool) (engine : EngineId) (world : World) :
    Value → Script.Value → Prop
  | nullish {script : Script.Value} (nullish : script.isNullish = true) :
      Represents byValue engine world .null script
  | primitive {value : Value} {script : Script.Value} (same : primitive? value = some script) :
      Represents byValue engine world value script
  | proxy {value : Value} {cell : CellId} (proxied : isProxied byValue value = true)
      (stands : world.Stands engine cell value) :
      Represents byValue engine world value (.proxy cell)
  | array {cell copy : CellId} {element : TypeRef} {items : Array Value}
      {parts : Array Script.Value} (copying : byValue = true)
      (found : world.store.get? cell = some (.hostArray element items))
      (copied : world.store.get? copy = some (.scriptArray parts))
      (alike : items.toList.length = parts.toList.length)
      (each : ∀ pair ∈ items.toList.zip parts.toList,
        Represents byValue engine world pair.1 pair.2) :
      Represents byValue engine world (.array cell) (.array copy)

/-- A value is represented for as long as what it leads to, and what the script value leads to, is
as it was. -/
theorem Represents.stays {byValue : Bool} {engine : EngineId} {earlier later : World}
    {value : Value} {script : Script.Value}
    (represents : Represents byValue engine earlier value script)
    (disposed : (later.engine engine).isDisposed = (earlier.engine engine).isDisposed)
    (keeps : ∀ {cell contents}, earlier.store.Reaches (value.cells ++ script.cells) cell →
      earlier.store.get? cell = some contents → later.store.get? cell = some contents) :
    Represents byValue engine later value script := by
  induction represents with
  | nullish nullish => exact .nullish nullish
  | primitive same => exact .primitive same
  | proxy proxied stands =>
    obtain ⟨enabled, proxy, found, owned, same⟩ := stands
    refine .proxy proxied ⟨disposed.trans enabled, proxy, keeps (.root ?_) found, owned, same⟩
    exact List.mem_append_right _ (List.mem_singleton.mpr rfl)
  | @array cell copy element items parts copying found copied alike each inductionHypothesis =>
    let roots := (Value.array cell).cells ++ (Script.Value.array copy).cells
    have host : earlier.store.Reaches roots cell :=
      .root (List.mem_append_left _ (List.mem_singleton.mpr rfl))
    have script : earlier.store.Reaches roots copy :=
      .root (List.mem_append_right _ (List.mem_singleton.mpr rfl))
    refine .array copying (keeps host found) (keeps script copied) alike fun pair member => ?_
    refine inductionHypothesis pair member fun reached => keeps (reached.trans fun part named => ?_)
    obtain ⟨itemMember, partMember⟩ := List.of_mem_zip member
    rcases List.mem_append.mp named with named | named
    · exact .part host found (List.mem_flatMap.mpr ⟨_, itemMember, named⟩)
    · exact .part script copied (List.mem_flatMap.mpr ⟨_, partMember, named⟩)

theorem Represents.held {byValue : Bool} {engine : EngineId} {world : World}
    {value : Value} {script : Script.Value}
    (represents : Represents byValue engine world value script) (held : List CellId) :
    Represents byValue engine { world with held } value script :=
  represents.stays rfl fun _ found => found

/-! ### What a representation tells -/

namespace Represents

variable {byValue : Bool} {engine : EngineId} {world : World} {value : Value}
  {script : Script.Value}

theorem isNullish (represents : Represents byValue engine world .null script) :
    script.isNullish = true := by
  cases represents with
  | nullish nullish => exact nullish
  | primitive same => cases same
  | proxy proxied => cases proxied

/-- Only null is represented by what is null for script. -/
theorem eq_null (represents : Represents byValue engine world value script)
    (nullish : script.isNullish = true) : value = .null := by
  cases represents with
  | nullish => rfl
  | primitive same =>
    cases value with
    | integer integer =>
      cases same
      unfold exportInt at nullish
      split at nullish <;> cases nullish
    | _ => cases same <;> cases nullish
  | proxy => cases nullish
  | array => cases nullish

theorem eq_primitive {primitive : Script.Value}
    (represents : Represents byValue engine world value script)
    (same : primitive? value = some primitive) : script = primitive := by
  cases represents with
  | nullish => cases same
  | primitive other => exact Option.some.inj (other.symm.trans same)
  | proxy proxied => cases value <;> first | cases same; done | cases proxied
  | array => cases same

theorem eq_proxy (represents : Represents byValue engine world value script)
    (proxied : isProxied byValue value = true) :
    ∃ cell, script = .proxy cell ∧ world.Stands engine cell value := by
  cases represents with
  | nullish => cases proxied
  | primitive same => cases value <;> first | cases same; done | cases proxied
  | proxy _ stands => exact ⟨_, rfl, stands⟩
  | array copying =>
    rw [copying] at proxied
    cases proxied

theorem eq_array {cell : CellId} (represents : Represents true engine world (.array cell) script) :
    ∃ copy element items parts, script = .array copy ∧
      world.store.get? cell = some (.hostArray element items) ∧
        world.store.get? copy = some (.scriptArray parts) ∧
          items.toList.length = parts.toList.length ∧
            ∀ pair ∈ items.toList.zip parts.toList,
              Represents true engine world pair.1 pair.2 := by
  cases represents with
  | primitive same => cases same
  | proxy proxied => cases proxied
  | array _ found copied alike each => exact ⟨_, _, _, _, rfl, found, copied, alike, each⟩

end Represents

/-! ### From host to script -/

namespace Bridge

theorem exportNull_isNullish (options : Options) (declared : TypeRef) :
    (exportNull options declared).isNullish = true := by
  unfold exportNull
  extract_lets untyped
  split
  · rfl
  · split <;> rfl

variable {engine : EngineId} {world : World} {value : Value} {options : Options} {type : TypeRef}
  {calls : Calls}

/-- What stays in use keeps what it leads to. -/
theorem keepsValue_of_goes {after : World} (goes : Goes engine world after)
    (used : ∀ cell ∈ value.cells, world.InUse cell) :
    world.store.KeepsValue after.store value :=
  ⟨goes.types, fun reached => goes.used (reached.trans used)⟩

/-- The script value represents the host value, which can still be exchanged as the type. -/
structure Exchanged (options : Options) (engine : EngineId) (type : TypeRef) (value : Value)
    (script : Script.Value) (world : World) : Prop where
  represents : Represents options.arraysByValue engine world value script
  exchangeable : Exchangeable options world.store type value

theorem Exchanged.held {script : Script.Value}
    (exchanged : Exchanged options engine type value script world) (held : List CellId) :
    Exchanged options engine type value script { world with held } :=
  ⟨exchanged.represents.held held, exchanged.exchangeable⟩

/-- A value whose cells are in use meanwhile can still be exchanged afterwards. -/
theorem scope_gives {body : ScriptRun Script.Value}
    (exchangeable : Exchangeable options world.store type value)
    (gives : body.Gives engine (world.holding value.cells) fun script after =>
      Represents options.arraysByValue engine after value script) :
    (scope (do holdCells value.cells; body) : ScriptRun Script.Value).Gives engine world
      (Exchanged options engine type value) := by
  refine .scope ?_ fun script after held exchanged => exchanged.held held
  have holds : (holdCells value.cells : ScriptRun Unit).Gives engine world fun _ after =>
      after = world.holding value.cells :=
    .of_outcome (outcome_update _ _) (.hold world _) rfl
  refine holds.bind fun _ held _ same => ?_
  subst same
  refine gives.imp fun script after goes represents => ⟨represents, exchangeable.stays ?_⟩
  have keeps := keepsValue_of_goes goes fun cell member => .root (World.mem_held_holding.mpr (.inl member))
  exact keeps

/-- A value held by value is represented by a proxy of its own. -/
theorem asBoxed_gives {byValue : Bool} (sound : world.IsSound engine)
    (proxied : isProxied byValue value = true) :
    (do return .proxy (← boxValue engine value .none) : ScriptRun Script.Value).Gives engine
      (world.holding value.cells) fun script after =>
        Represents byValue engine after value script :=
  (boxValue_gives ((Goes.hold world value.cells).sound sound) value .none).bind
    fun _ _ _ stands => .pure (.proxy proxied stands)

/-- A value held by reference is represented by its proxy. -/
theorem asReference_gives {byValue : Bool} {target : CellId} {contents : Cell} (value : Value)
    (sound : world.IsSound engine) (proxied : isProxied byValue value = true)
    (identity : value.identity? = some target) (weak : value.hasWeakForm = true)
    (found : world.store.get? target = some contents) (suits : contents.Suits value)
    (declared : TypeRef) :
    (do return .proxy (← proxyReference engine value declared .none) :
      ScriptRun Script.Value).Gives engine (world.holding value.cells)
        fun script after => Represents byValue engine after value script := by
  have used : World.InUse (world.holding value.cells) target :=
    .root (World.mem_held_holding.mpr (.inl (mem_cells_of_identity identity)))
  have soundHeld := (Goes.hold world value.cells).sound sound
  exact (proxyReference_gives soundHeld identity weak used found suits declared .none).bind
    fun _ _ _ stands => .pure (.proxy proxied stands)

theorem null_gives (declared : TypeRef)
    (exchangeable : Exchangeable options world.store type .null) :
    (toScript calls engine .null declared).Gives engine world
      (Exchanged options engine type .null) := by
  unfold toScript
  refine scope_gives exchangeable (.bind_of_outcome (outcome_observe _ _) ?_)
  exact .pure (.nullish (exportNull_isNullish _ _))

/-- A primitive is represented by itself. -/
theorem primitive_gives {script : Script.Value} (declared : TypeRef)
    (exchangeable : Exchangeable options world.store type value)
    (primitive : primitive? value = some script) :
    (toScript calls engine value declared).Gives engine world
      (Exchanged options engine type value) := by
  unfold toScript
  refine scope_gives exchangeable (.bind_of_outcome (outcome_observe _ _) ?_)
  cases value <;> cases primitive <;> exact .pure (.primitive rfl)

/-- An instance of a registered type is represented by a proxy. -/
theorem instance_gives (declared : TypeRef) (sound : world.IsSound engine)
    (exchangeable : Exchangeable options world.store type value)
    (intact : world.store.HasInstance value) :
    (toScript calls engine value declared).Gives engine world
      (Exchanged options engine type value) := by
  unfold toScript
  refine scope_gives exchangeable (.bind_of_outcome (outcome_observe _ _) ?_)
  cases value with
  | enumeration _ _ | struct _ _ => exact asBoxed_gives sound rfl
  | object cell =>
    obtain ⟨contents, found, suits⟩ := intact
    exact asReference_gives (.object cell) sound rfl rfl rfl found suits declared
  | delegate cell =>
    obtain ⟨key, body, found⟩ := intact
    have native : ownFunction? world.store engine cell = none := by
      unfold ownFunction? Store.delegateFunction?
      rw [found]
      rfl
    refine .bind_of_outcome (outcome_readStore _ _) ?_
    rw [World.holding_store, native]
    exact asReference_gives (.delegate cell) sound rfl rfl rfl found trivial declared
  | _ => exact intact.elim

/-- Do the calls marshal whatever can be exchanged as the type to what represents it? -/
def MarshalsAs (calls : Calls) (options : Options) (engine : EngineId) (type : TypeRef) : Prop :=
  ∀ {world : World} {value : Value}, world.IsSound engine →
    (world.engine engine).options = options → Exchangeable options world.store type value →
      (calls.toScript engine value type).Gives engine world (Exchanged options engine type value)

/-- The items of an array are represented one by one. -/
theorem exportItems_gives {element : TypeRef} (marshals : MarshalsAs calls options engine element)
    {items : List Value} : ∀ {world : World}, world.IsSound engine →
      (world.engine engine).options = options →
      (∀ item ∈ items, ∀ cell ∈ item.cells, world.InUse cell) →
      (∀ item ∈ items, Exchangeable options world.store element item) →
        (exportItems calls engine element items).Gives engine world fun parts after =>
          items.length = parts.length ∧
            (∀ pair ∈ items.zip parts,
              Represents options.arraysByValue engine after pair.1 pair.2) ∧
              ∀ part ∈ parts, ∀ cell ∈ part.cells, cell ∈ after.held := by
  induction items with
  | nil =>
    intro world _ _ _ _
    exact .pure ⟨rfl, nofun, nofun⟩
  | cons item rest inductionHypothesis =>
    intro world sound same used exchangeable
    have first := marshals sound same (exchangeable item List.mem_cons_self)
    refine (first.held fun script after held exchanged => exchanged.held held).bind ?_
    rintro script between goes ⟨⟨represents, -⟩, scriptHeld⟩
    have usedStill (other : Value) (member : other ∈ rest) (cell : CellId)
        (named : cell ∈ other.cells) : between.InUse cell :=
      goes.inUse (used other (List.mem_cons_of_mem _ member) cell named)
    have exchangeableStill (other : Value) (member : other ∈ rest) :
        Exchangeable options between.store element other :=
      (exchangeable other (List.mem_cons_of_mem _ member)).stays
        (keepsValue_of_goes goes (used other (List.mem_cons_of_mem _ member)))
    refine (inductionHypothesis (goes.sound sound) (goes.options.trans same) usedStill
      exchangeableStill).bind ?_
    rintro parts after goesOn ⟨alike, each, held⟩
    refine .pure ⟨congrArg (· + 1) alike, ?_, ?_⟩
    · rintro pair (_ | ⟨_, member⟩)
      · refine represents.stays goesOn.disposed fun reached =>
          goesOn.used (reached.trans fun cell named => ?_)
        rcases List.mem_append.mp named with named | named
        · exact goes.inUse (used item List.mem_cons_self cell named)
        · exact .root (scriptHeld cell named)
      · exact each pair member
    · rintro part (_ | ⟨_, member⟩) cell named
      · exact goesOn.held cell (scriptHeld cell named)
      · exact held part member cell named

/-- The handle of a type is represented by a proxy. -/
theorem handle_gives {mentioned : TypeRef} (declared : TypeRef) (sound : world.IsSound engine)
    (exchangeable : Exchangeable options world.store type (.type mentioned)) :
    (toScript calls engine (.type mentioned) declared).Gives engine world
      (Exchanged options engine type (.type mentioned)) := by
  unfold toScript
  refine scope_gives exchangeable (.bind_of_outcome (outcome_observe _ _) ?_)
  have soundHeld := (Goes.hold world (Value.type mentioned).cells).sound sound
  refine (reserve_gives soundHeld).bind fun _ _ goes _ => ?_
  refine (findHandle_gives (goes.sound soundHeld) mentioned .none).bind fun _ _ _ stands => ?_
  exact .pure (.proxy rfl stands)

/-- A box is represented by its proxy. -/
theorem box_gives {inner : TypeRef} {cell : CellId} {content : Value} (declared : TypeRef)
    (sound : world.IsSound engine) (found : world.store.get? cell = some (.box inner content))
    (exchangeable : Exchangeable options world.store type (.box cell)) :
    (toScript calls engine (.box cell) declared).Gives engine world
      (Exchanged options engine type (.box cell)) := by
  unfold toScript
  refine scope_gives exchangeable (.bind_of_outcome (outcome_observe _ _) ?_)
  exact asReference_gives (.box cell) sound rfl rfl rfl found trivial declared

/-- A moment that is not to become a script date is represented by a proxy. -/
theorem dateTime_gives {moment : Calendar.Moment} (declared : TypeRef)
    (sound : world.IsSound engine) (same : (world.engine engine).options = options)
    (kept : options.convertDates = false)
    (exchangeable : Exchangeable options world.store type (.dateTime moment)) :
    (toScript calls engine (.dateTime moment) declared).Gives engine world
      (Exchanged options engine type (.dateTime moment)) := by
  unfold toScript
  refine scope_gives exchangeable (.bind_of_outcome (outcome_observe _ _) ?_)
  show (if (world.engine engine).options.convertDates = true then _ else _ :
    ScriptRun Script.Value).Gives engine _ _
  rw [same, kept, if_neg Bool.false_ne_true]
  exact asBoxed_gives sound rfl

/-- A script array of what represents the items of an array represents the array. -/
theorem copy_gives {element : TypeRef} {cell : CellId} {items : Array Value}
    (marshals : MarshalsAs calls options engine element) (sound : world.IsSound engine)
    (same : (world.engine engine).options = options) (copying : options.arraysByValue = true)
    (used : world.InUse cell) (found : world.store.get? cell = some (.hostArray element items))
    (each : ∀ item ∈ items.toList, Exchangeable options world.store element item) :
    (do
      let parts ← exportItems calls engine element items.toList
      return .array (← create (.scriptArray parts.toArray)) : ScriptRun Script.Value).Gives engine
        world fun script after =>
          Represents options.arraysByValue engine after (.array cell) script := by
  have usedItems (item : Value) (member : item ∈ items.toList) (part : CellId)
      (named : part ∈ item.cells) : world.InUse part :=
    .part used found (List.mem_flatMap.mpr ⟨item, member, named⟩)
  refine (exportItems_gives marshals sound same usedItems each).bind ?_
  rintro parts between goes ⟨alike, represented, held⟩
  have made : Goes engine between (between.create (.scriptArray parts.toArray)).1 := by
    refine .create rfl (fun _ member => member) rfl rfl (fun kept => kept.step (.create rfl)) ?_
    rintro _ _ _ ⟨⟩
  have creates : (create (.scriptArray parts.toArray) : ScriptRun CellId).Gives engine between
      fun copy after => after.store.get? copy = some (.scriptArray parts.toArray) :=
    .of_outcome (outcome_create _ _) (made.trans (.keep _ between.store.cells.size))
      (Store.get?_create_size _ _)
  refine creates.bind fun copy after goesOn copied => .pure ?_
  refine .array copying (goesOn.used (goes.inUse used) (goes.used used found)) copied alike ?_
  intro pair member
  refine (represented pair member).stays goesOn.disposed fun reached =>
    goesOn.used (reached.trans fun part named => ?_)
  obtain ⟨itemMember, partMember⟩ := List.of_mem_zip member
  rcases List.mem_append.mp named with named | named
  · exact goes.inUse (usedItems _ itemMember part named)
  · exact .root (held _ partMember part named)

/-- An array is represented by its proxy, or by an array of what represents its items. -/
theorem array_gives {element : TypeRef} {cell : CellId} {items : Array Value} (declared : TypeRef)
    (sound : world.IsSound engine) (same : (world.engine engine).options = options)
    (marshals : options.arraysByValue = true → MarshalsAs calls options engine element)
    (found : world.store.get? cell = some (.hostArray element items))
    (each : options.arraysByValue = true →
      ∀ item ∈ items.toList, Exchangeable options world.store element item)
    (exchangeable : Exchangeable options world.store type (.array cell)) :
    (toScript calls engine (.array cell) declared).Gives engine world
      (Exchanged options engine type (.array cell)) := by
  unfold toScript
  refine scope_gives exchangeable (.bind_of_outcome (outcome_observe _ _) ?_)
  show (if (world.engine engine).options.arraysByValue = true then _ else _ :
    ScriptRun Script.Value).Gives engine (world.holding [cell]) _
  rw [same]
  split
  next copying =>
    have foundItems : world.store.hostItems cell = items := by
      unfold Store.hostItems
      rw [found]
    have foundElement : world.store.element cell = element := by
      unfold Store.element
      rw [found]
    refine .bind_of_outcome (outcome_readStore _ _) (.bind_of_outcome (outcome_readStore _ _) ?_)
    rw [World.holding_store, foundItems, foundElement]
    have soundHeld := (Goes.hold world [cell]).sound sound
    exact copy_gives (marshals copying) soundHeld same copying
      (.root (World.mem_held_holding.mpr (.inl List.mem_cons_self))) found (each copying)
  next byReference =>
    have proxied : isProxied options.arraysByValue (.array cell) = true := by
      unfold isProxied
      rw [Bool.not_eq_true']
      exact Bool.eq_false_iff.mpr byReference
    exact asReference_gives (.array cell) sound proxied rfl rfl found trivial declared

/-- A value that may be exchanged comes to something in script that represents it, or the engine
refuses for being disposed or for lack of room. -/
theorem toScript_gives {depth : Nat} (deep : type.arrayDepth ≤ depth) (declared : TypeRef)
    (sound : world.IsSound engine) (same : (world.engine engine).options = options)
    (exchangeable : Exchangeable options world.store type value) :
    (toScript (Script.startWithin depth) engine value declared).Gives engine world
      (Exchanged options engine type value) := by
  have forms := exchangeable
  induction type generalizing depth world value declared with
  | nullable inner inductionHypothesis =>
    rcases forms with rfl | inside
    · exact null_gives declared exchangeable
    · have gives := inductionHypothesis deep declared sound same inside inside
      exact gives.imp fun _ _ _ exchanged => ⟨exchanged.represents, .inr exchanged.exchangeable⟩
  | array element inductionHypothesis =>
    rcases forms with rfl | ⟨cell, items, rfl, found, each⟩
    · exact null_gives declared exchangeable
    · refine array_gives declared sound same ?_ found each exchangeable
      intro copying world value soundThen sameThen inside
      cases depth with
      | zero => cases deep
      | succ depth =>
        have deepThen := Nat.le_of_succ_le_succ deep
        exact inductionHypothesis deepThen element soundThen sameThen inside inside
  | bool | char =>
    obtain ⟨_, rfl⟩ := forms
    exact primitive_gives declared exchangeable rfl
  | numeric kind =>
    rcases forms with ⟨integer, rfl, -⟩ | ⟨number, rfl, -⟩
    · exact primitive_gives declared exchangeable rfl
    · exact primitive_gives declared exchangeable rfl
  | string | buffer | view =>
    rcases forms with rfl | ⟨_, rfl⟩
    · exact null_gives declared exchangeable
    · exact primitive_gives declared exchangeable rfl
  | handle =>
    rcases forms with rfl | ⟨mentioned, rfl⟩
    · exact null_gives declared exchangeable
    · exact handle_gives declared sound exchangeable
  | dateTime =>
    obtain ⟨kept, moment, rfl⟩ := forms
    exact dateTime_gives declared sound same kept exchangeable
  | named key =>
    rcases forms with ⟨rfl, -⟩ | ⟨-, intact⟩
    · exact null_gives declared exchangeable
    · exact instance_gives declared sound exchangeable intact
  | box inner _ =>
    rcases forms with rfl | ⟨cell, content, rfl, found⟩
    · exact null_gives declared exchangeable
    · exact box_gives declared sound found exchangeable
  | object | dynamic | void => exact exchangeable.elim

end Bridge

end ScriptBridge
