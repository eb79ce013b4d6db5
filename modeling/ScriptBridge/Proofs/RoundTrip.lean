/-
This file takes what represents host values in script back to the host. The
conversion to the declared type undoes each way in which a value was represented.
So the value that comes back is the one that was given, or a fresh array whose
items are those of the given one, and if the way out fails, the engine is disposed
or the heap is full.
-/

import ScriptBridge.Bridge.ToHost
import ScriptBridge.Proofs.Conformance
import ScriptBridge.Proofs.Exchange

namespace ScriptBridge

open Run World Bridge Host

/-! ### What comes back -/

/-- Is the value that came back equal to the given one, with the same identity? -/
def Host.Value.IsSame (given back : Value) : Prop :=
  given.equals back = true ∧ back.identity? = given.identity?

/-- Is the value that came back the given one? Where arrays go by value it is a fresh array of the
same element type instead, whose items are those of the given one, in the same sense. -/
def Returns (byValue : Bool) (start later : Store) : TypeRef → Value → Value → Prop
  | .nullable inner, given, back => Returns byValue start later inner given back
  | .array element, given, back =>
    ((byValue = false ∨ given = .null) ∧ given.IsSame back) ∨
      (byValue = true ∧ ∃ cell fresh items others, given = .array cell ∧ back = .array fresh ∧
        start.get? cell = some (.hostArray element items) ∧ start.cells.size ≤ fresh ∧
          later.get? fresh = some (.hostArray element others) ∧
            List.Forall₂ (Returns byValue start later element) items.toList others.toList)
  | _, given, back => given.IsSame back

/-- What has come back stays as conversions make more cells. -/
theorem Returns.extends {byValue : Bool} {start later last : Store} {type : TypeRef}
    {given back : Value} (returns : Returns byValue start later type given back)
    (extends_ : later.Extends last) : Returns byValue start last type given back := by
  induction type generalizing given back with
  | nullable inner inductionHypothesis => exact inductionHypothesis returns
  | array element inductionHypothesis =>
    refine returns.imp_right ?_
    rintro ⟨copying, cell, fresh, items, others, rfl, rfl, found, new, made, each⟩
    refine ⟨copying, cell, fresh, items, others, rfl, rfl, found, new, ?_, ?_⟩
    · rw [extends_.get? fresh (Store.lt_size_of_get? made)]
      exact made
    · exact each.imp fun _ _ => inductionHypothesis
  | _ => exact returns

/-- Null comes back as null. -/
theorem returns_null {byValue : Bool} {start later : Store} (type : TypeRef) :
    Returns byValue start later type .null .null := by
  have same : Value.null.IsSame .null := ⟨rfl, rfl⟩
  induction type with
  | nullable inner inductionHypothesis => exact inductionHypothesis
  | array element _ => exact .inl ⟨.inr rfl, same⟩
  | _ => exact same

/-! ### From script to host -/

/-- Conversions keep the record sound and every engine as it is. -/
theorem Grows.keeps {engine : EngineId} {before after : World} (grows : Grows before after) :
    (before.IsSound engine → after.IsSound engine) ∧
      after.engine engine = before.engine engine := by
  induction grows with
  | refl => exact ⟨id, rfl⟩
  | @tail between after _ step inductionHypothesis =>
    refine ⟨fun sound => ?_, ?_⟩
    · have soundThen := inductionHypothesis.1 sound
      cases step with
      | held => exact ⟨soundThen.kept.step (.held _ _), soundThen.suited⟩
      | create contents converted =>
        have plain : contents.isProxy = false := by
          cases contents <;> first | rfl | cases converted
        have goes : Goes engine between (between.create contents).1 := by
          refine .create rfl (fun _ member => member) rfl rfl (fun kept => ?_) ?_
          · exact kept.step (.create plain)
          · rintro _ _ _ rfl
            cases plain
        exact goes.sound soundThen
    · rw [← inductionHypothesis.2]
      cases step <;> rfl

/-- A world in order that has come from the one in which a value was given: what was there has not
become anything else. -/
structure World.Follows (world : World) (engine : EngineId) (start : Store) : Prop where
  sound : world.IsSound engine
  size_le : start.cells.size ≤ world.store.cells.size
  stays : ∀ {cell : CellId} {contents : Cell}, cell < start.cells.size →
    world.store.get? cell = some contents → start.get? cell = some contents

theorem World.Follows.grows {engine : EngineId} {start : Store} {world after : World}
    (follows : world.Follows engine start) (grows : Grows world after) :
    after.Follows engine start where
  sound := grows.keeps.1 follows.sound
  size_le := Nat.le_trans follows.size_le grows.extends.size_le
  stays inside found := by
    rw [grows.extends.get? _ (Nat.lt_of_lt_of_le inside follows.size_le)] at found
    exact follows.stays inside found

theorem Store.Extends.keepsValue {earlier later : Store} (extends_ : earlier.Extends later)
    (value : Value) : earlier.KeepsValue later value :=
  ⟨extends_.types, fun _ found => by
    rw [extends_.get? _ (Store.lt_size_of_get? found)]
    exact found⟩

theorem Represents.grows {byValue : Bool} {engine : EngineId} {world after : World} {value : Value}
    {script : Script.Value} (represents : Represents byValue engine world value script)
    (grows : Grows world after) : Represents byValue engine after value script := by
  refine represents.stays (by rw [grows.keeps.2]) fun _ found => ?_
  rw [grows.extends.get? _ (Store.lt_size_of_get? found)]
  exact found

namespace Bridge

variable {engine : EngineId} {world : World} {value : Value} {script : Script.Value}

/-- Null comes back wherever it is accepted, from whatever represents it. -/
theorem toHost_nullish {type : TypeRef} (nullish : script.isNullish = true)
    (accepts : world.store.types.acceptsNull type = true)
    (typed : type ≠ .object ∧ type ≠ .dynamic) :
    (toHost engine script type).outcome world = (.ok ⟨.null, .exact, boxPenalty type⟩, world) := by
  have plain : (type == .object || type == .dynamic) = false := by
    rw [Bool.or_eq_false_iff, beq_eq_false_iff_ne, beq_eq_false_iff_ne]
    exact typed
  have nulled : (toHostNullish script type).outcome world =
      (.ok ⟨.null, .exact, boxPenalty type⟩, world) := by
    unfold toHostNullish
    dsimp only
    rw [plain, Bool.false_and, if_neg Bool.false_ne_true, outcome_bind, outcome_types]
    dsimp only
    rw [if_pos accepts]
    rfl
  cases type <;> unfold toHost <;> rw [if_pos nullish] <;> exact nulled

/-- What is behind a proxy is looked up before it is converted. -/
theorem boxedValue?_of_stands {Failure : Type} {cell : CellId} (sound : world.IsSound engine)
    (stands : world.Stands engine cell value) :
    (held (boxedValue? (.proxy cell)) : Run Failure (Option Value)).outcome world =
      (.ok (some value), world.holding value.cells) := by
  show (Except.ok (world.targetOf cell).toOption,
    world.holding (HoldsCells.cells (world.targetOf cell).toOption)) = _
  rw [stands.targetOf sound]
  rfl

/-- Does the conversion of the script value to the type give the value? -/
def Restores (engine : EngineId) (world : World) (script : Script.Value) (type : TypeRef)
    (value : Value) : Prop :=
  ∃ converted after, (toHost engine script type).outcome world = (.ok converted, after) ∧
    converted.value = value

/-- An integer that 64 signed bits hold comes back in its kind. -/
theorem restores_integer {integer : Number.Integer} (fits : integer.value < 2 ^ 63) :
    Restores engine world (exportInt integer.value) (.numeric integer.kind) (.integer integer) := by
  have back : (Int64.ofInt integer.value).toInt = integer.value :=
    Int64.toInt_ofInt_of_le integer.lower_le fits
  unfold exportInt
  rw [if_pos fits]
  refine ⟨⟨.integer integer, Conversion.scriptIntRule integer.value integer.kind,
    Conversion.numericPenalty integer.kind⟩, world, ?_, rfl⟩
  show ((ofExcept (Conversion.ofInt (Int64.ofInt integer.value).toInt integer.kind) >>= fun host =>
    pure ⟨host, Conversion.scriptIntRule (Int64.ofInt integer.value).toInt integer.kind,
      Conversion.numericPenalty integer.kind⟩ : ConversionRun Converted)).outcome world = _
  rw [back, integer.ofInt_self]
  rfl

theorem toPlain_char (character : Char) (boxed : Option Value) :
    toPlain (.string character.toString) boxed .char = pure ⟨.char character, .widening, 0⟩ := by
  unfold toPlain
  rw [Char.toString_eq_singleton]
  dsimp only
  rw [String.toList_singleton]

theorem restores_char (character : Char) :
    Restores engine world (.string character.toString) .char (.char character) := by
  refine ⟨⟨.char character, .widening, 0⟩, world, ?_, rfl⟩
  show (toPlain (.string character.toString) none .char).outcome world = _
  rw [toPlain_char]
  rfl

/-- What a proxy stands for comes back as any type of which it is an instance. -/
theorem restores_named {cell : CellId} {key : TypeKey} (sound : world.IsSound engine)
    (stands : world.Stands engine cell value)
    (isInstance : world.store.isInstance value (.named key) = true) :
    Restores engine world (.proxy cell) (.named key) value := by
  have taken : (some value).filter (fun host => world.store.isInstance host (.named key)) =
      some value := by rw [Option.filter_some, if_pos isInstance]
  have named : (toNamed (.proxy cell) (some value) key).outcome
      (world.holding value.cells) =
        (.ok ⟨value, .exact, chainDistance world.store.types (world.store.typeOf value) key⟩,
          world.holding value.cells) := by
    unfold toNamed
    rw [outcome_bind, outcome_readStore]
    dsimp only [id, World.holding_store]
    rw [taken]
    rfl
  refine ⟨_, _, Eq.trans ?_ named, rfl⟩
  unfold toHost
  rw [if_neg (by exact Bool.false_ne_true), outcome_bind_of_ok (boxedValue?_of_stands sound stands)]

/-- Whatever is behind a proxy comes back as an array or a box of its type. -/
theorem restores_array {cell : CellId} {element : TypeRef} (sound : world.IsSound engine)
    (stands : world.Stands engine cell value) (typed : world.store.typeOf value = .array element) :
    Restores engine world (.proxy cell) (.array element) value := by
  have taken : (some value).filter (fun host => world.store.typeOf host == .array element) =
      some value := by rw [Option.filter_some, if_pos (beq_iff_eq.mpr typed)]
  have array (convert : Script.Value → ConversionRun Converted) :
      (toArray convert (.proxy cell) (some value) element).outcome
        (world.holding value.cells) =
          (.ok ⟨value, .exact, 0⟩, world.holding value.cells) := by
    unfold toArray
    rw [outcome_bind, outcome_readStore]
    dsimp only [id, World.holding_store]
    rw [taken]
    rfl
  refine ⟨⟨value, .exact, 0⟩, world.holding value.cells, ?_, rfl⟩
  unfold toHost
  rw [if_neg (by exact Bool.false_ne_true), outcome_bind_of_ok (boxedValue?_of_stands sound stands)]
  exact array _

theorem restores_box {cell : CellId} {inner : TypeRef} (sound : world.IsSound engine)
    (stands : world.Stands engine cell value) (typed : world.store.typeOf value = .box inner) :
    Restores engine world (.proxy cell) (.box inner) value := by
  have taken : (some value).filter (fun host => world.store.typeOf host == .box inner) =
      some value := by rw [Option.filter_some, if_pos (beq_iff_eq.mpr typed)]
  have box : (toBox (.proxy cell) (some value) inner).outcome
      (world.holding value.cells) =
        (.ok ⟨value, .exact, 0⟩, world.holding value.cells) := by
    unfold toBox
    rw [outcome_bind, outcome_readStore]
    dsimp only [id, World.holding_store]
    rw [taken]
    rfl
  refine ⟨_, _, Eq.trans ?_ box, rfl⟩
  unfold toHost
  rw [if_neg (by exact Bool.false_ne_true), outcome_bind_of_ok (boxedValue?_of_stands sound stands)]

/-- The moment and the type behind a proxy come back as such. -/
theorem restores_dateTime {cell : CellId} {moment : Calendar.Moment} (sound : world.IsSound engine)
    (stands : world.Stands engine cell (.dateTime moment)) :
    Restores engine world (.proxy cell) .dateTime (.dateTime moment) := by
  refine ⟨⟨.dateTime moment, .exact, 0⟩, world, ?_, rfl⟩
  unfold toHost
  rw [if_neg (by exact Bool.false_ne_true), outcome_bind_of_ok (boxedValue?_of_stands sound stands)]
  rfl

theorem restores_handle {cell : CellId} {mentioned : TypeRef} (sound : world.IsSound engine)
    (stands : world.Stands engine cell (.type mentioned)) :
    Restores engine world (.proxy cell) .handle (.type mentioned) := by
  refine ⟨⟨.type mentioned, .exact, 0⟩, world, ?_, rfl⟩
  unfold toHost
  rw [if_neg (by exact Bool.false_ne_true), outcome_bind_of_ok (boxedValue?_of_stands sound stands)]
  rfl

/-- The items of a script array come back one by one. -/
theorem convertItems_returns {options : Options} {start : Store} {element : TypeRef}
    (converts : ∀ {world : World} {item : Value} {part : Script.Value}, world.Follows engine start →
      Exchangeable options start element item → Exchangeable options world.store element item →
        Represents true engine world item part →
          ∃ converted after, (toHost engine part element).outcome world = (.ok converted, after) ∧
            Returns true start after.store element item converted.value)
    {items : List Value} : ∀ {world : World} {parts : List Script.Value} (rule : Conversion.Rule),
      world.Follows engine start → items.length = parts.length →
      (∀ item ∈ items, Exchangeable options start element item) →
      (∀ item ∈ items, Exchangeable options world.store element item) →
      (∀ pair ∈ items.zip parts, Represents true engine world pair.1 pair.2) →
        ∃ others worst after,
          (convertItems (fun part => toHost engine part element) rule parts).outcome world =
            (.ok (others, worst), after) ∧
          List.Forall₂ (Returns true start after.store element) items others := by
  induction items with
  | nil =>
    intro world parts rule _ alike _ _ _
    cases parts with
    | nil => exact ⟨[], rule, world, rfl, .nil⟩
    | cons _ _ => cases alike
  | cons item rest inductionHypothesis =>
    intro world parts rule follows alike before now represents
    cases parts with
    | nil => cases alike
    | cons part parts =>
      obtain ⟨converted, between, ran, returns⟩ := converts follows (before _ List.mem_cons_self)
        (now _ List.mem_cons_self) (represents _ List.mem_cons_self)
      have ranHeld := outcome_held_eq_ok.2 ⟨between, ran, rfl⟩
      have grows := Leaves.held (toHost_grows engine part element) world
      rw [ranHeld] at grows
      obtain ⟨others, worst, after, ranRest, returnsRest⟩ := inductionHypothesis
        (rule.worse converted.rule) (follows.grows grows) (Nat.succ.inj alike)
        (fun other member => before other (List.mem_cons_of_mem _ member))
        (fun other member => (now other (List.mem_cons_of_mem _ member)).stays
          (grows.extends.keepsValue other))
        (fun pair member => (represents pair (List.mem_cons_of_mem _ member)).grows grows)
      have growsRest := convertItems_grows (fun part => toHost_grows engine part element)
        (rule.worse converted.rule) parts
        (between.holding (HoldsCells.cells converted))
      rw [ranRest] at growsRest
      refine ⟨converted.value :: others, worst, after, ?_, .cons ?_ returnsRest⟩
      · unfold convertItems
        rw [outcome_bind_of_ok ranHeld, outcome_bind_of_ok ranRest]
        rfl
      · exact returns.extends growsRest.extends

/-- A script array comes back as a fresh host array. -/
theorem array_returns {options : Options} {start : Store} {element : TypeRef} {cell : CellId}
    (copying : options.arraysByValue = true)
    (converts : ∀ {world : World} {item : Value} {part : Script.Value}, world.Follows engine start →
      Exchangeable options start element item → Exchangeable options world.store element item →
        Represents true engine world item part →
          ∃ converted after, (toHost engine part element).outcome world = (.ok converted, after) ∧
            Returns true start after.store element item converted.value)
    (follows : world.Follows engine start)
    (before : Exchangeable options start (.array element) (.array cell))
    (now : Exchangeable options world.store (.array element) (.array cell))
    (represents : Represents true engine world (.array cell) script) :
    ∃ converted after, (toHost engine script (.array element)).outcome world =
        (.ok converted, after) ∧
      Returns true start after.store (.array element) (.array cell) converted.value := by
  obtain ⟨copy, _, items, parts, rfl, found, copied, alike, each⟩ := represents.eq_array
  obtain nulled | ⟨_, _, same, foundNow, exchangeableNow⟩ := now
  · cases nulled
  cases same
  cases foundNow.symm.trans found
  obtain nulled | ⟨_, _, same, foundBefore, exchangeableBefore⟩ := before
  · cases nulled
  cases same
  cases foundBefore.symm.trans (follows.stays (Store.lt_size_of_get? foundBefore) found)
  obtain ⟨others, worst, last, ran, returns⟩ := convertItems_returns converts .widening follows
    alike (exchangeableBefore copying) (exchangeableNow copying) each
  have partsFound : world.store.scriptItems copy = parts := by
    unfold Store.scriptItems
    rw [copied]
  have converted : (toHost engine (.array copy) (.array element)).outcome world =
      (.ok ⟨.array last.store.cells.size, worst, 0⟩,
        { (last.create (.hostArray element others.toArray)).1 with
          held := last.store.cells.size :: last.held }) := by
    unfold toHost
    rw [if_neg (by exact Bool.false_ne_true)]
    show (toArray (fun part => toHost engine part element) (.array copy) none element).outcome world
      = _
    unfold toArray
    rw [outcome_bind, outcome_readStore]
    dsimp only [id, World.holding_store]
    rw [Option.filter_none]
    dsimp only
    rw [partsFound, outcome_bind_of_ok ran, outcome_bind, outcome_create]
    rfl
  have grows := convertItems_grows (fun part => toHost_grows engine part element) .widening
    parts.toList world
  rw [ran] at grows
  refine ⟨_, _, converted, .inr ⟨rfl, cell, last.store.cells.size, items, others.toArray, rfl, rfl,
    foundBefore, ?_, Store.get?_create_size _ _, ?_⟩⟩
  · exact Nat.le_trans follows.size_le grows.extends.size_le
  · exact returns.imp fun _ _ back => back.extends (.create rfl)

/-- Null comes back as null. -/
theorem null_returns {byValue : Bool} {start : Store} {type : TypeRef}
    (accepts : world.store.types.acceptsNull type = true) (typed : type ≠ .object ∧ type ≠ .dynamic)
    (represents : Represents byValue engine world .null script) :
    ∃ converted after, (toHost engine script type).outcome world = (.ok converted, after) ∧
      Returns byValue start after.store type .null converted.value :=
  ⟨_, _, toHost_nullish represents.isNullish accepts typed, returns_null type⟩

/-- A value that is restored has returned. -/
theorem Restores.returns {byValue : Bool} {start : Store} {type : TypeRef}
    (restores : Restores engine world script type value) (proper : value.hasNaN = false)
    (leaf : ∀ later, value.IsSame value → Returns byValue start later type value value) :
    ∃ converted after, (toHost engine script type).outcome world = (.ok converted, after) ∧
      Returns byValue start after.store type value converted.value := by
  obtain ⟨converted, after, ran, rfl⟩ := restores
  exact ⟨converted, after, ran, leaf _ ⟨Value.equals_self proper, rfl⟩⟩

/-- What is not null for script is converted to a nullable type as to the inner one. -/
theorem toHost_nullable (engine : EngineId) (world : World) (inner : TypeRef)
    (proper : script.isNullish = false) :
    ∃ held, (toHost engine script (.nullable inner)).outcome world =
      (toHost engine script inner).outcome { world with held } := by
  have opened : toHost engine script (.nullable inner) =
      if script.isNullish then toHostNullish script (.nullable inner)
      else held (boxedValue? script) >>= fun _ => toHost engine script inner := rfl
  rw [opened, if_neg (by rw [proper]; exact Bool.false_ne_true)]
  cases script with
  | proxy cell => exact ⟨(world.holding (HoldsCells.cells (world.targetOf cell).toOption)).held, rfl⟩
  | _ => exact ⟨world.held, rfl⟩

/-- What represents a value comes back as that value. -/
theorem toHost_returns {options : Options} {start : Store} {type : TypeRef}
    {world : World} {value : Value} {script : Script.Value} (follows : world.Follows engine start)
    (before : Exchangeable options start type value)
    (now : Exchangeable options world.store type value)
    (represents : Represents options.arraysByValue engine world value script) :
    ∃ converted after, (toHost engine script type).outcome world = (.ok converted, after) ∧
      Returns options.arraysByValue start after.store type value converted.value := by
  induction type generalizing world value script with
  | nullable inner inductionHypothesis =>
    cases nullish : script.isNullish with
    | true =>
      obtain rfl := represents.eq_null nullish
      exact null_returns rfl (by simp) represents
    | false =>
      have proper : value ≠ .null := by
        rintro rfl
        exact Bool.false_ne_true (nullish.symm.trans represents.isNullish)
      obtain ⟨held, same⟩ := toHost_nullable engine world inner nullish
      rw [same]
      exact inductionHypothesis (follows.grows (.single (.held world held)))
        (before.resolve_left proper) (now.resolve_left proper) (represents.held held)
  | array element inductionHypothesis =>
    have forms := now
    rcases forms with rfl | ⟨cell, items, rfl, found, -⟩
    · exact null_returns rfl (by simp) represents
    cases copying : options.arraysByValue with
    | true =>
      rw [copying] at represents
      refine array_returns copying (fun followsThen beforeThen nowThen representsThen => ?_) follows
        before now represents
      rw [← copying] at representsThen ⊢
      exact inductionHypothesis followsThen beforeThen nowThen representsThen
    | false =>
      rw [copying] at represents
      obtain ⟨proxy, rfl, stands⟩ := represents.eq_proxy rfl
      have typed : world.store.typeOf (.array cell) = .array element := by
        simp only [Store.typeOf, Store.element, found]
      exact (restores_array follows.sound stands typed).returns rfl fun _ same =>
        .inl ⟨.inl rfl, same⟩
  | bool =>
    obtain ⟨flag, rfl⟩ := now
    rw [represents.eq_primitive rfl]
    exact Restores.returns ⟨⟨.bool flag, .exact, 0⟩, world, rfl, rfl⟩ rfl fun _ => id
  | char =>
    obtain ⟨character, rfl⟩ := now
    rw [represents.eq_primitive rfl]
    exact (restores_char character).returns rfl fun _ => id
  | numeric kind =>
    rcases now with ⟨integer, rfl, rfl, fits⟩ | ⟨number, rfl, rfl, proper⟩
    · rw [represents.eq_primitive rfl]
      exact (restores_integer fits).returns rfl fun _ => id
    · rw [represents.eq_primitive rfl]
      exact Restores.returns ⟨⟨.double number, .exact, 1⟩, world, rfl, rfl⟩ proper fun _ => id
  | string =>
    rcases now with rfl | ⟨text, rfl⟩
    · exact null_returns rfl (by simp) represents
    · rw [represents.eq_primitive rfl]
      exact Restores.returns ⟨⟨.string text, .exact, 0⟩, world, rfl, rfl⟩ rfl fun _ => id
  | buffer =>
    rcases now with rfl | ⟨cell, rfl⟩
    · exact null_returns rfl (by simp) represents
    · rw [represents.eq_primitive rfl]
      exact Restores.returns ⟨⟨.buffer cell, .exact, 0⟩, world, rfl, rfl⟩ rfl fun _ => id
  | view =>
    rcases now with rfl | ⟨view, rfl⟩
    · exact null_returns rfl (by simp) represents
    · rw [represents.eq_primitive rfl]
      exact Restores.returns ⟨⟨.view view, .exact, 0⟩, world, rfl, rfl⟩ rfl fun _ => id
  | handle =>
    rcases now with rfl | ⟨mentioned, rfl⟩
    · exact null_returns rfl (by simp) represents
    · obtain ⟨cell, rfl, stands⟩ := represents.eq_proxy rfl
      exact (restores_handle follows.sound stands).returns rfl fun _ => id
  | dateTime =>
    obtain ⟨-, moment, rfl⟩ := now
    obtain ⟨cell, rfl, stands⟩ := represents.eq_proxy rfl
    exact (restores_dateTime follows.sound stands).returns rfl fun _ => id
  | named key =>
    rcases now with ⟨rfl, accepts⟩ | ⟨isInstance, intact⟩
    · exact null_returns accepts (by simp) represents
    · have proxied : isProxied options.arraysByValue value = true ∧ value.hasNaN = false := by
        cases value <;> first | exact intact.elim | exact ⟨rfl, intact⟩ | exact ⟨rfl, rfl⟩
      obtain ⟨cell, rfl, stands⟩ := represents.eq_proxy proxied.1
      exact (restores_named follows.sound stands isInstance).returns proxied.2 fun _ => id
  | box inner _ =>
    rcases now with rfl | ⟨cell, content, rfl, found⟩
    · exact null_returns rfl (by simp) represents
    · obtain ⟨proxy, rfl, stands⟩ := represents.eq_proxy rfl
      have typed : world.store.typeOf (.box cell) = .box inner := by
        simp only [Store.typeOf, Store.boxType, found]
      exact (restores_box follows.sound stands typed).returns rfl fun _ => id
  | object | dynamic | void => exact now.elim

end Bridge

/-! ### Round trips -/

/-- An engine that has made no proxy yet is in order. -/
theorem World.HasFreshRecord.isSound {world : World} {engine : EngineId}
    (fresh : world.HasFreshRecord engine) : world.IsSound engine :=
  ⟨fresh.isKept, fun _ _ _ _ _ _ found owned => absurd owned (fresh.proxies _ _ found)⟩

/-- A value that was marshaled comes back: converting what it became in script to its declared type
gives it again, with the engine in order. It may only fail to be marshaled because the engine is
disposed or the heap is full. -/
structure ComesBack (engine : EngineId) (byValue : Bool) (start : Store) (declared : TypeRef)
    (given : Value) (marshaled : Except (Halt ScriptError) Script.Value × World) : Prop where
  returned : ∀ script after, marshaled = (.ok script, after) → ∃ converted later,
    (toHost engine script declared).outcome after = (.ok converted, later) ∧
      later.IsSound engine ∧ Returns byValue start later.store declared given converted.value
  refused : ∀ error, marshaled.1 = .error (.raised error) → error.IsRefusal
  ended : marshaled.1 ≠ .error .exhausted

/-- A value that its declared type names precisely is marshaled for script unless the engine
refuses, and converting it back to that type gives it again: an equal value of the same identity,
or, where arrays go by value, a fresh array of what its items come back as. The engine stays in
order, so that the next value can go the same way. -/
theorem given_values_return {engine : EngineId} {start : World} {declared : TypeRef} {given : Value}
    {depth : Nat} (sound : start.IsSound engine) (deep : declared.arrayDepth ≤ depth)
    (exchangeable : Exchangeable (start.engine engine).options start.store declared given) :
    let marshaled := (toScript (Script.startWithin depth) engine given declared).outcome start
    marshaled.2.IsSound engine ∧
      ComesBack engine (start.engine engine).options.arraysByValue start.store declared given
        marshaled := by
  obtain ⟨goes, gives⟩ := toScript_gives deep declared sound rfl exchangeable
  refine ⟨goes.sound sound, ?_, ?_, ?_⟩
  · intro script after ran
    rw [ran] at goes gives
    obtain ⟨represents, exchangeableAfter⟩ := gives
    have follows : after.Follows engine start.store :=
      ⟨goes.sound sound, goes.size_le, goes.stays⟩
    obtain ⟨converted, later, back, returns⟩ :=
      toHost_returns follows exchangeable exchangeableAfter represents
    have grows := toHost_grows engine script declared after
    rw [back] at grows
    exact ⟨converted, later, back, grows.keeps.1 follows.sound, returns⟩
  · intro error failed
    rw [failed] at gives
    exact gives
  · intro ended
    rw [ended] at gives
    exact gives

/-- An engine for which arrays go by value, an object, and an array of the object and null. -/
def World.withNodes : World where
  store :=
    { types := ⟨#[{ name := "Node", kind := .reference }]⟩
      cells := #[some (.object { type := 0 }), some (.hostArray (.named 0) #[.object 0, .null])] }
  engines := #[Engine.new "main" { arraysByValue := true } none]
  held := [1]

theorem World.withNodes_isSound : withNodes.IsSound 0 := by
  have known {cell : CellId} {contents : Cell} (found : withNodes.store.get? cell = some contents) :
      (cell = 0 ∧ contents = .object { type := 0 }) ∨
        (cell = 1 ∧ contents = .hostArray (.named 0) #[.object 0, .null]) := by
    match cell with
    | 0 => exact .inl ⟨rfl, (Option.some.inj found).symm⟩
    | 1 => exact .inr ⟨rfl, (Option.some.inj found).symm⟩
    | cell + 2 => exact nomatch (Store.get?_of_size_le (Nat.le_add_left 2 cell)).symm.trans found
  refine HasFreshRecord.isSound ⟨Nat.zero_lt_one, rfl, ?_, rfl, ?_⟩
  · intro cell proxy found
    rcases known found with ⟨-, ⟨⟩⟩ | ⟨-, ⟨⟩⟩
  · intro cell living
    obtain ⟨contents, found⟩ := Store.isLive_iff.mp living
    rcases known found with ⟨rfl, -⟩ | ⟨rfl, -⟩
    · exact List.mem_of_elem_eq_true rfl
    · exact List.mem_of_elem_eq_true rfl

/-- The array becomes a script array and comes back. -/
theorem given_array_returns :
    let marshaled :=
      (toScript (Script.startWithin 1) 0 (.array 1) (.array (.named 0))).outcome .withNodes
    marshaled.1.toOption = some (.array 3) ∧
      ComesBack 0 true World.withNodes.store (.array (.named 0)) (.array 1) marshaled := by
  have exchangeable : Exchangeable (World.withNodes.engine 0).options World.withNodes.store
      (.array (.named 0)) (.array 1) := by
    refine .inr ⟨1, #[.object 0, .null], rfl, rfl, fun _ item member => ?_⟩
    rcases List.mem_cons.mp member with rfl | rest
    · refine .inr ⟨?_, _, rfl, trivial⟩
      exact isAssignable_self World.withNodes.store.types 0
    · cases List.mem_singleton.mp rest
      exact .inl ⟨rfl, rfl⟩
  refine ⟨by decide +kernel, ?_⟩
  exact (given_values_return World.withNodes_isSound (Nat.le_refl 1) exchangeable).2

end ScriptBridge
