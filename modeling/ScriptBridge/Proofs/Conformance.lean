/-
This file proves that conversions are sound: what a script value is converted to
conforms to the type it was converted to. Scalars come in exactly the variant
that the type names, arrays with exactly the element type, values of registered
types with a type that can stand for the one asked for, and null only where the
type accepts it. Host code that extracts an argument strictly, as the declared
type describes it, therefore never meets a value of another shape.
-/

import Mathlib.Data.List.Forall2
import ScriptBridge.Proofs.Growth
import ScriptBridge.Host.Run

namespace ScriptBridge

open Run Host Number

/-! ### Conformance -/

/-- Does the host value conform to the type, as what the script value became? An array made from a
script array holds its items one by one, each conforming in the store that its own conversion
left. -/
def Conforms : TypeRef → Store → Script.Value → Value → Prop
  | .object, _, _, _ | .dynamic, _, _, _ => True
  | .void, _, _, _ => False
  | .bool, _, _, host => ∃ value, host = .bool value
  | .char, _, _, host => ∃ value, host = .char value
  | .string, _, _, host => host = .null ∨ ∃ value, host = .string value
  | .dateTime, _, _, host => ∃ moment, host = .dateTime moment
  | .numeric kind, _, _, host => host.numericKind? = some kind
  | .nullable inner, store, value, host => host = .null ∨ Conforms inner store value host
  | .array element, store, value, host =>
    host = .null ∨ ∃ cell, host = .array cell ∧ store.element cell = element ∧
      ∀ source, value = .array source → List.Forall₂
        (fun item converted => ∃ earlier, earlier.Extends store ∧
          Conforms element earlier item converted)
        (store.scriptItems source).toList (store.hostItems cell).toList
  | .buffer, _, _, host => host = .null ∨ ∃ cell, host = .buffer cell
  | .view, _, _, host => host = .null ∨ ∃ view, host = .view view
  | .named key, store, _, host =>
    (host = .null ∧ (store.types.type key).isValueType = false) ∨
      ∃ actual, store.typeOf host = .named actual ∧ store.types.isAssignable actual key
  | .handle, _, _, host => host = .null ∨ ∃ type, host = .type type
  | .box inner, store, _, host => host = .null ∨ ∃ cell, host = .box cell ∧ store.boxType cell = inner

/-- Null conforms to every type that accepts it. -/
theorem conforms_null {target : TypeRef} {store : Store} {value : Script.Value}
    (accepts : store.types.acceptsNull target) : Conforms target store value .null := by
  cases target with
  | named key =>
    refine .inl ⟨rfl, ?_⟩
    unfold TypeTable.acceptsNull TypeTable.isValueType at accepts
    rw [Bool.and_eq_true, Bool.not_eq_true'] at accepts
    exact accepts.1
  | object => trivial
  | dynamic => trivial
  | string => exact .inl rfl
  | nullable inner => exact .inl rfl
  | array element => exact .inl rfl
  | buffer => exact .inl rfl
  | view => exact .inl rfl
  | handle => exact .inl rfl
  | box inner => exact .inl rfl
  | void => cases accepts
  | bool => cases accepts
  | char => cases accepts
  | dateTime => cases accepts
  | numeric kind => cases accepts

/-! ### Types of values -/

/-- Every type can stand for itself. -/
theorem isAssignable_self (table : TypeTable) (key : TypeKey) : table.isAssignable key key := by
  have member : key ∈ table.chain key := by
    unfold TypeTable.chain
    split
    · exact List.mem_cons_self
    · exact List.mem_cons_self
  unfold TypeTable.isAssignable
  rw [List.contains_iff_mem.2 member, Bool.true_or]

theorem eq_array_of_typeOf {store : Store} {host : Value} {element : TypeRef}
    (typed : store.typeOf host = .array element) :
    ∃ cell, host = .array cell ∧ store.element cell = element := by
  cases host with
  | array cell => exact ⟨cell, rfl, TypeRef.array.inj typed⟩
  | _ => cases typed

theorem eq_box_of_typeOf {store : Store} {host : Value} {inner : TypeRef}
    (typed : store.typeOf host = .box inner) :
    ∃ cell, host = .box cell ∧ store.boxType cell = inner := by
  cases host with
  | box cell => exact ⟨cell, rfl, TypeRef.box.inj typed⟩
  | _ => cases typed

/-- An instance of a registered type has a type that can stand for it. -/
theorem isAssignable_of_isInstance {store : Store} {host : Value} {key : TypeKey}
    (isInstance : store.isInstance host (.named key)) :
    ∃ actual, store.typeOf host = .named actual ∧ store.types.isAssignable actual key := by
  unfold Store.isInstance at isInstance
  rw [Bool.and_eq_true] at isInstance
  have assignable := isInstance.2
  dsimp only [TypeRef.underlying] at assignable
  split at assignable
  next actual typed => exact ⟨actual, typed, assignable⟩
  next => cases assignable

/-! ### Numbers -/

namespace Conversion

theorem numericKind?_of_ofInt? {kind : Kind} {value : Int} {host : Value}
    (converted : Value.ofInt? kind value = some host) : host.numericKind? = some kind := by
  have integral (made : (Integer.ofInt? kind value).map Value.integer = some host) :
      host.numericKind? = some kind := by
    obtain ⟨integer, found, rfl⟩ := Option.map_eq_some_iff.1 made
    exact congrArg some (Integer.ofInt?_eq_some_iff.1 found).2.1
  cases kind with
  | single =>
    cases converted
    rfl
  | double =>
    cases converted
    rfl
  | decimal =>
    obtain ⟨decimal, -, rfl⟩ := Option.map_eq_some_iff.1 converted
    rfl
  | _ => exact integral converted

theorem numericKind?_of_ofInt {kind : Kind} {value : Int} {host : Value}
    (converted : ofInt value kind = .ok host) : host.numericKind? = some kind := by
  unfold ofInt at converted
  split at converted
  next other found =>
    cases converted
    exact numericKind?_of_ofInt? found
  next => cases converted

theorem numericKind?_of_ofDouble {kind : Kind} {number : Double} {host : Value}
    (converted : ofDouble number kind = .ok host) : host.numericKind? = some kind := by
  unfold ofDouble at converted
  split at converted
  · cases converted
    rfl
  · split at converted
    · cases converted
    · cases converted
      rfl
  · split at converted
    · cases converted
      rfl
    · cases converted
  · cases converted

theorem numericKind?_of_ofScalar {source kind : Kind} {value host : Value}
    (scalar : value.numericKind? = some source) (converted : ofScalar value source kind = .ok host) :
    host.numericKind? = some kind := by
  unfold ofScalar at converted
  split at converted
  next same =>
    cases converted
    rw [scalar, eq_of_beq same]
  next =>
    split at converted
    · exact numericKind?_of_ofInt converted
    · split at converted
      · cases converted
      · exact numericKind?_of_ofDouble converted

theorem scriptIntRule_ne_rejected (value : Int) (kind : Kind) :
    scriptIntRule value kind ≠ .rejected := by
  unfold scriptIntRule
  dsimp only
  repeat' split
  all_goals exact nofun

end Conversion

namespace Bridge

open Conversion

variable {Failure : Type}

/-! ### Parts of conversions -/

/-- What lies behind a value that is no proxy is nothing. -/
theorem boxedValue?_eq_none {value : Script.Value} {world after : World} {boxed : Option Value}
    (found : (boxedValue? value : Run Failure (Option Value)).outcome world = (.ok boxed, after))
    (plain : ∀ cell, value ≠ .proxy cell) : boxed = none := by
  unfold boxedValue? at found
  split at found
  next cell => exact absurd rfl (plain cell)
  next =>
    cases found
    rfl

/-- A failing conversion has no value. -/
theorem incompatible_ne_ok {Result : Type} {value : Script.Value} {target : TypeRef}
    {world after : World} {result : Result}
    (impossible : (incompatible value target).outcome world = (.ok result, after)) : False := by
  cases impossible

theorem toHostNullish_ok {value : Script.Value} {target : TypeRef} {world after : World}
    {converted : Converted}
    (made : (toHostNullish value target).outcome world = (.ok converted, after)) :
    after = world ∧ converted.rule = .exact ∧
      (converted.value = .null ∧ world.store.types.acceptsNull target ∨
        target = .object ∨ target = .dynamic) := by
  unfold toHostNullish at made
  dsimp only at made
  split at made
  next untyped =>
    cases made
    refine ⟨rfl, rfl, .inr ?_⟩
    rw [Bool.and_eq_true, Bool.or_eq_true, beq_iff_eq, beq_iff_eq] at untyped
    exact untyped.1
  next =>
    rw [outcome_bind, outcome_types] at made
    dsimp only at made
    split at made
    next accepts =>
      cases made
      exact ⟨rfl, rfl, .inl ⟨rfl, accepts⟩⟩
    next => exact (incompatible_ne_ok made).elim

/-- A nullish value converts to a value that conforms. -/
theorem toHostNullish_conforms {value : Script.Value} {target : TypeRef} {world after : World}
    {converted : Converted}
    (made : (toHostNullish value target).outcome world = (.ok converted, after)) :
    converted.rule ≠ .rejected ∧ Conforms target after.store value converted.value := by
  obtain ⟨rfl, exact, nulled | rfl | rfl⟩ := toHostNullish_ok made
  · rw [exact, nulled.1]
    exact ⟨nofun, conforms_null nulled.2⟩
  · rw [exact]
    exact ⟨nofun, trivial⟩
  · rw [exact]
    exact ⟨nofun, trivial⟩

theorem toNumeric_conforms {value : Script.Value} {boxed : Option Value} {kind : Kind}
    {world after : World} {converted : Converted}
    (made : (toNumeric value boxed kind).outcome world = (.ok converted, after)) :
    converted.rule ≠ .rejected ∧ converted.value.numericKind? = some kind := by
  unfold toNumeric at made
  dsimp only at made
  split at made
  next number =>
    cases found : Conversion.ofInt number.toInt kind with
    | ok host =>
      rw [found] at made
      cases made
      exact ⟨scriptIntRule_ne_rejected _ _, numericKind?_of_ofInt found⟩
    | error failure =>
      rw [found] at made
      cases made
  next number =>
    split at made
    next => exact (incompatible_ne_ok made).elim
    next allowed =>
      cases found : Conversion.ofDouble number kind with
      | ok host =>
        rw [found] at made
        cases made
        refine ⟨fun rejected => allowed ?_, numericKind?_of_ofDouble found⟩
        rw [show scriptDoubleRule kind = .rejected from rejected]
        rfl
      | error failure =>
        rw [found] at made
        cases made
  next host _ _ =>
    split at made
    next source scalar =>
      split at made
      next => cases made
      next allowed =>
        cases found : Conversion.ofScalar host source kind with
        | ok other =>
          rw [found] at made
          cases made
          refine ⟨fun rejected => allowed ?_, numericKind?_of_ofScalar scalar found⟩
          rw [show numericRule source kind = .rejected from rejected]
          rfl
        | error failure =>
          rw [found] at made
          cases made
    next => exact (incompatible_ne_ok made).elim
  next => exact (incompatible_ne_ok made).elim

theorem toNamed_conforms {value : Script.Value} {boxed : Option Value} {key : TypeKey}
    {world after : World} {converted : Converted}
    (made : (toNamed value boxed key).outcome world = (.ok converted, after)) :
    converted.rule ≠ .rejected ∧ Conforms (.named key) after.store value converted.value := by
  unfold toNamed at made
  rw [outcome_bind, outcome_readStore] at made
  dsimp only at made
  split at made
  next host taken =>
    cases made
    exact ⟨nofun, .inr (isAssignable_of_isInstance (Option.filter_eq_some_iff.1 taken).2)⟩
  next function _ =>
    split at made
    next delegates =>
      unfold delegateFor at made
      rw [bind_assoc, outcome_bind, outcome_types] at made
      dsimp only [id] at made delegates
      rw [if_pos delegates, outcome_bind, outcome_create] at made
      cases made
      refine ⟨nofun, .inr ⟨key, ?_, isAssignable_self _ key⟩⟩
      have found := Store.get?_create_size world.store (.delegate key (.function function))
      unfold Store.typeOf Store.delegateType World.create
      dsimp only
      rw [found]
    next => exact (incompatible_ne_ok made).elim
  next => exact (incompatible_ne_ok made).elim

/-- Items convert one by one, each in a store that the later ones extend. -/
theorem convertItems_conforms {element : TypeRef} {convert : Script.Value → ConversionRun Converted}
    (grows : ∀ item, Leaves Grows (convert item))
    (conforms : ∀ {item : Script.Value} {world after : World} {converted : Converted},
      (convert item).outcome world = (.ok converted, after) →
        converted.rule ≠ .rejected ∧ Conforms element after.store item converted.value)
    {rule worst : Rule} {items : List Script.Value} {values : List Value} {world after : World}
    (allowed : rule ≠ .rejected)
    (made : (convertItems convert rule items).outcome world = (.ok (values, worst), after)) :
    worst ≠ .rejected ∧ List.Forall₂
      (fun item value => ∃ earlier, earlier.Extends after.store ∧
        Conforms element earlier item value) items values := by
  induction items generalizing rule values world with
  | nil =>
    cases made
    exact ⟨allowed, .nil⟩
  | cons item rest inductionHypothesis =>
    unfold convertItems at made
    obtain ⟨converted, between, ranFirst, made⟩ := outcome_bind_eq_ok.1 made
    obtain ⟨⟨others, worstOther⟩, last, ranRest, made⟩ := outcome_bind_eq_ok.1 made
    cases made
    obtain ⟨moment, ranItem, rfl⟩ := outcome_held_eq_ok.1 ranFirst
    obtain ⟨firstAllowed, firstConforms⟩ := conforms ranItem
    have worse : rule.worse converted.rule ≠ .rejected := by
      unfold Rule.worse
      split
      · exact firstAllowed
      · exact allowed
    obtain ⟨restAllowed, restConform⟩ := inductionHypothesis worse ranRest
    refine ⟨restAllowed, .cons ⟨moment.store, ?_, firstConforms⟩ restConform⟩
    have grown := convertItems_grows grows (rule.worse converted.rule) rest
      (moment.holding (HoldsCells.cells converted))
    rw [ranRest] at grown
    exact grown.extends

theorem toArray_conforms {convert : Script.Value → ConversionRun Converted}
    {value : Script.Value} {boxed : Option Value} {element : TypeRef} {world after : World}
    {converted : Converted} (grows : ∀ item, Leaves Grows (convert item))
    (conforms : ∀ {item : Script.Value} {world after : World} {converted : Converted},
      (convert item).outcome world = (.ok converted, after) →
        converted.rule ≠ .rejected ∧ Conforms element after.store item converted.value)
    (unboxed : ∀ source, value = .array source → boxed = none)
    (made : (toArray convert value boxed element).outcome world = (.ok converted, after)) :
    converted.rule ≠ .rejected ∧ Conforms (.array element) after.store value converted.value := by
  unfold toArray at made
  rw [outcome_bind, outcome_readStore] at made
  dsimp only [id] at made
  split at made
  next host taken =>
    cases made
    obtain ⟨isBoxed, typed⟩ := Option.filter_eq_some_iff.1 taken
    obtain ⟨cell, rfl, sameElement⟩ := eq_array_of_typeOf (eq_of_beq typed)
    refine ⟨nofun, .inr ⟨cell, rfl, sameElement, fun source same => ?_⟩⟩
    rw [unboxed source same] at isBoxed
    cases isBoxed
  next source _ =>
    obtain ⟨⟨items, rule⟩, last, ranItems, made⟩ := outcome_bind_eq_ok.1 made
    cases made
    have widening : Rule.widening ≠ .rejected := nofun
    obtain ⟨allowed, conform⟩ := convertItems_conforms grows conforms widening ranItems
    have grown := convertItems_grows grows .widening (world.store.scriptItems source).toList world
    rw [ranItems] at grown
    have extended : last.store.Extends (last.store.create (.hostArray element items.toArray)).1 :=
      .create rfl
    have found := Store.get?_create_size last.store (.hostArray element items.toArray)
    refine ⟨allowed, .inr ⟨_, rfl, ?_, ?_⟩⟩
    · show (last.store.create (.hostArray element items.toArray)).1.element
        last.store.cells.size = element
      unfold Store.element
      rw [found]
    · rintro _ ⟨⟩
      have sameItems : (last.store.create (.hostArray element items.toArray)).1.scriptItems source =
          world.store.scriptItems source := (grown.extends.trans extended).scriptItems source
      have newItems : (last.store.create (.hostArray element items.toArray)).1.hostItems
          last.store.cells.size = items.toArray := by
        unfold Store.hostItems
        rw [found]
      show List.Forall₂ _
        ((last.store.create (.hostArray element items.toArray)).1.scriptItems source).toList
        ((last.store.create (.hostArray element items.toArray)).1.hostItems
          last.store.cells.size).toList
      rw [sameItems, newItems]
      exact conform.imp fun item value ⟨earlier, extends_, itemConforms⟩ =>
        ⟨earlier, extends_.trans extended, itemConforms⟩
  next => exact (incompatible_ne_ok made).elim

theorem toBox_conforms {value : Script.Value} {boxed : Option Value} {inner : TypeRef}
    {world after : World} {converted : Converted}
    (made : (toBox value boxed inner).outcome world = (.ok converted, after)) :
    converted.rule ≠ .rejected ∧ Conforms (.box inner) after.store value converted.value := by
  unfold toBox at made
  rw [outcome_bind, outcome_readStore] at made
  dsimp only [id] at made
  split at made
  next host taken =>
    cases made
    exact ⟨nofun, .inr (eq_box_of_typeOf (eq_of_beq (Option.filter_eq_some_iff.1 taken).2))⟩
  next => exact (incompatible_ne_ok made).elim

theorem toPlain_conforms {value : Script.Value} {boxed : Option Value} {target : TypeRef}
    {world after : World} {converted : Converted}
    (made : (toPlain value boxed target).outcome world = (.ok converted, after)) :
    converted.rule ≠ .rejected ∧ Conforms target after.store value converted.value := by
  unfold toPlain at made
  split at made
  case h_3 =>
    split at made
    · cases made
      exact ⟨nofun, _, rfl⟩
    · exact (incompatible_ne_ok made).elim
  case h_6 =>
    split at made
    · cases made
      exact ⟨nofun, _, rfl⟩
    · cases made
  case h_11 => exact (incompatible_ne_ok made).elim
  case h_5 | h_8 | h_9 | h_10 =>
    cases made
    exact ⟨nofun, .inr ⟨_, rfl⟩⟩
  all_goals
    cases made
    exact ⟨nofun, _, rfl⟩

/-- What a script value is converted to conforms to the type, and the rule that the conversion
reports is one that takes values. -/
theorem toHost_conforms (engine : EngineId) (value : Script.Value) (target : TypeRef)
    {world after : World} {converted : Converted}
    (made : (toHost engine value target).outcome world = (.ok converted, after)) :
    converted.rule ≠ .rejected ∧ Conforms target after.store value converted.value := by
  induction target generalizing value world after converted
  all_goals
    unfold toHost at made
    split at made
    · exact toHostNullish_conforms made
    obtain ⟨boxed, between, found, made⟩ := outcome_bind_eq_ok.1 made
  case nullable inner inductionHypothesis _ _ =>
    obtain ⟨allowed, conforms⟩ := inductionHypothesis value made
    exact ⟨allowed, .inr conforms⟩
  case array element inductionHypothesis _ _ =>
    refine toArray_conforms (fun item => toHost_grows engine item element)
      (inductionHypothesis _) ?_ made
    rintro source rfl
    obtain ⟨_, unboxed, -⟩ := outcome_held_eq_ok.1 found
    exact boxedValue?_eq_none unboxed fun _ same => by cases same
  case box => exact toBox_conforms made
  case numeric => exact toNumeric_conforms made
  case named => exact toNamed_conforms made
  case object =>
    obtain ⟨host, last, -, made⟩ := outcome_bind_eq_ok.1 made
    cases made
    exact ⟨Conversion.Rule.noConfusion, trivial⟩
  case dynamic =>
    obtain ⟨host, last, -, made⟩ := outcome_bind_eq_ok.1 made
    cases made
    exact ⟨Conversion.Rule.noConfusion, trivial⟩
  all_goals exact toPlain_conforms made

end Bridge

/-! ### Strict extraction -/

/-- The shape of the values of a type, where they have one shape. -/
def shapeOf? : TypeRef → Option Shape
  | .bool => some .bool
  | .char => some .char
  | .string => some .string
  | .dateTime => some .dateTime
  | .numeric kind => some (.numeric kind)
  | .nullable inner => shapeOf? inner
  | .array _ => some .array
  | .buffer => some .buffer
  | .view => some .view
  | .box _ => some .box
  | _ => none

/-- How host code extracts an argument declared with the type: strictly, and as optional where the
type accepts null. -/
def extractionOf? (table : TypeTable) (type : TypeRef) : Option Extraction :=
  (shapeOf? type).map fun shape => if table.acceptsNull type then .optional shape else .exact shape

/-- A value that conforms has the shape of the type, or is null where the type accepts it. -/
theorem Conforms.fits {target : TypeRef} {store : Store} {value : Script.Value} {host : Value}
    {shape : Shape} (conforms : Conforms target store value host)
    (shaped : shapeOf? target = some shape) :
    (host = .null ∧ store.types.acceptsNull target) ∨ shape.fits host := by
  induction target with
  | nullable inner inductionHypothesis =>
    rcases conforms with rfl | conforms
    · exact .inl ⟨rfl, rfl⟩
    · exact (inductionHypothesis conforms shaped).imp (fun nulled => ⟨nulled.1, rfl⟩) id
  | numeric kind =>
    cases shaped
    refine .inr ?_
    cases host with
    | integer _ | single _ | double _ | decimal _ => exact beq_iff_eq.2 conforms
    | _ => cases conforms
  | bool | char | dateTime =>
    cases shaped
    obtain ⟨_, rfl⟩ := conforms
    exact .inr rfl
  | string | buffer | view =>
    cases shaped
    obtain rfl | ⟨_, rfl⟩ := conforms
    · exact .inl ⟨rfl, rfl⟩
    · exact .inr rfl
  | array element _ =>
    cases shaped
    obtain rfl | ⟨_, rfl, -⟩ := conforms
    · exact .inl ⟨rfl, rfl⟩
    · exact .inr rfl
  | box inner _ =>
    cases shaped
    obtain rfl | ⟨_, rfl, -⟩ := conforms
    · exact .inl ⟨rfl, rfl⟩
    · exact .inr rfl
  | _ => cases shaped

theorem extract_of_fits {shape : Shape} {host : Value} (fits : shape.fits host) (world : World) :
    (shape.extract host).outcome world = (.ok host, world) := by
  unfold Shape.extract
  rw [if_pos fits]
  rfl

/-- The extraction that a declared type asks for takes every value that conforms to the type. -/
theorem Conforms.extracts {target : TypeRef} {store : Store} {value : Script.Value} {host : Value}
    {extraction : Extraction} (conforms : Conforms target store value host)
    (declared : extractionOf? store.types target = some extraction) (world : World) :
    (extraction.apply host).outcome world = (.ok host, world) := by
  obtain ⟨shape, shaped, rfl⟩ := Option.map_eq_some_iff.1 declared
  split
  next =>
    rcases conforms.fits shaped with ⟨rfl, -⟩ | fits
    · rfl
    · unfold Extraction.apply
      dsimp only
      split
      next nullish =>
        cases host <;> cases nullish
        · cases shape <;> cases fits
        · rfl
      next => exact extract_of_fits fits world
  next refuses =>
    rcases conforms.fits shaped with ⟨-, accepts⟩ | fits
    · exact absurd accepts refuses
    · exact extract_of_fits fits world

/-! ### Soundness -/

namespace Bridge

/-- A conversion that succeeds reports a rule that takes values, its value conforms to the declared
type, and host code that extracts the argument as the declared type asks for it gets that value. -/
theorem toHost_sound (engine : EngineId) (value : Script.Value) (target : TypeRef)
    (world after : World) (converted : Converted)
    (made : (toHost engine value target).outcome world = (.ok converted, after)) :
    converted.rule ≠ .rejected ∧ Conforms target after.store value converted.value ∧
      ∀ extraction, extractionOf? world.store.types target = some extraction → ∀ later,
        (extraction.apply converted.value).outcome later = (.ok converted.value, later) := by
  obtain ⟨allowed, conforms⟩ := toHost_conforms engine value target made
  refine ⟨allowed, conforms, fun extraction declared later => conforms.extracts ?_ later⟩
  have grown := toHost_grows engine value target world
  rw [made] at grown
  rwa [grown.extends.types]

theorem toHost_sound_bool :
    (toHost 0 (.bool true) .bool).outcome default = (.ok ⟨.bool true, .exact, 0⟩, default) ∧
      Conforms .bool (default : World).store (.bool true) (.bool true) :=
  ⟨rfl, (toHost_sound 0 (.bool true) .bool default default ⟨.bool true, .exact, 0⟩ rfl).2.1⟩

/-- A text is not always a text: null is taken where one is declared, and then host code that
extracts a text strictly fails. -/
theorem toHost_null_string :
    (toHost 0 .null .string).outcome default = (.ok ⟨.null, .exact, 0⟩, default) ∧
      (∀ text, Value.null ≠ .string text) ∧
      ((Extraction.exact .string).apply .null).outcome default =
        (.error (.raised (.typeMismatch "String" "Object")), default) :=
  ⟨rfl, nofun, rfl⟩

end Bridge

end ScriptBridge
