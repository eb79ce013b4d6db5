/-
This file says what the annotations of members are and what does not depend on them. A
type without its annotations has the same members, bases and interfaces: it is
displayed alike, its values are instances of the same types and are null or start
from the same value, and what is kept alive is the same.
-/

import Mathlib.Data.List.Basic
import ScriptBridge.Bridge.Proxying
import ScriptBridge.Store.Shown

namespace ScriptBridge

open Host Binding

/-! ### Members without annotations -/

namespace Host

/-- The member without what is said of it to script: its access, its name for script, and the
default access of its type. -/
def Member.bare (member : Member) : Member :=
  { member with declaringAccess := none, access := none, rename := none }

/-- The type with its members bare. -/
def HostType.bare (type : HostType) : HostType :=
  { type with members := type.members.map Member.bare, defaultAccess := none }

/-- The table with its types bare. -/
def TypeTable.bare (table : TypeTable) : TypeTable := ⟨table.types.map HostType.bare⟩

theorem Member.sameSignature_bare (left right : Member) :
    left.bare.sameSignature right.bare = left.sameSignature right := rfl

namespace HostType

@[simp]
theorem name_bare (type : HostType) : type.bare.name = type.name := rfl

@[simp]
theorem kind_bare (type : HostType) : type.bare.kind = type.kind := rfl

@[simp]
theorem isInterface_bare (type : HostType) : type.bare.isInterface = type.isInterface := rfl

@[simp]
theorem isDelegate_bare (type : HostType) : type.bare.isDelegate = type.isDelegate := rfl

theorem structFields_bare (type : HostType) :
    type.bare.structFields = type.structFields.map Member.bare := by
  unfold structFields bare
  rw [List.filter_map]
  rfl

theorem defaultCells_bare (type : HostType) : type.bare.defaultCells = type.defaultCells := by
  have parameters : type.bare.members.flatMap Member.parameters =
      type.members.flatMap Member.parameters := by
    unfold bare
    rw [List.flatMap_map]
    rfl
  unfold defaultCells
  rw [parameters]
  rfl

end HostType

namespace TypeTable

variable (table : TypeTable)

@[simp]
theorem type_bare (key : TypeKey) : table.bare.type key = (table.type key).bare := by
  unfold type bare
  rw [Array.getElem?_map]
  cases table.types[key]? <;> rfl

theorem size_bare : table.bare.size = table.size := Array.size_map

/-! ### Bases and interfaces -/

theorem base?_bare (key : TypeKey) : table.bare.base? key = table.base? key := by
  unfold base?
  rw [type_bare]
  rfl

theorem chain_eq (key : TypeKey) :
    table.chain key = key :: ((table.base? key).map table.chain).getD [] := by
  rw [chain]
  split
  · next found => rw [found]; rfl
  · next found => rw [found]; rfl

@[simp]
theorem chain_bare (key : TypeKey) : table.bare.chain key = table.chain key := by
  induction key using Nat.strongRecOn with
  | ind key inductionHypothesis =>
    rw [chain_eq, chain_eq, base?_bare]
    cases found : table.base? key with
    | none => rfl
    | some base =>
      rw [Option.map_some, Option.map_some, inductionHypothesis base (table.lt_of_base? found)]

theorem interfaces_bare (key : TypeKey) : table.bare.interfaces key = table.interfaces key := by
  unfold interfaces
  rw [type_bare]
  rfl

theorem searchInterfaces_eq (found : List TypeKey) (interface : TypeKey) :
    table.searchInterfaces found interface =
      if found.contains interface then found
      else (table.interfaces interface).foldr (fun next found => table.searchInterfaces found next)
        (found ++ [interface]) := by
  rw [searchInterfaces]
  split
  · rfl
  · exact @List.foldr_attach _ _ _ (fun next found => table.searchInterfaces found next) _

theorem searchInterfaces_bare (found : List TypeKey) (interface : TypeKey) :
    table.bare.searchInterfaces found interface = table.searchInterfaces found interface := by
  induction interface using Nat.strongRecOn generalizing found with
  | ind interface inductionHypothesis =>
    rw [searchInterfaces_eq, searchInterfaces_eq, interfaces_bare]
    split
    · rfl
    · refine List.foldr_ext _ _ _ fun next named found => ?_
      exact inductionHypothesis next (table.lt_of_mem_interfaces named) found

@[simp]
theorem allInterfaces_bare (key : TypeKey) :
    table.bare.allInterfaces key = table.allInterfaces key := by
  have search : table.bare.searchInterfaces = table.searchInterfaces := by
    funext found interface
    exact table.searchInterfaces_bare found interface
  have named : (fun type =>
      (if (table.bare.type type).isInterface then [type] else []) ++ table.bare.interfaces type) =
      fun type => (if (table.type type).isInterface then [type] else []) ++
        table.interfaces type := by
    funext type
    rw [interfaces_bare, type_bare]
    rfl
  unfold allInterfaces
  rw [search, chain_bare, named]

@[simp]
theorem isAssignable_bare (actual expected : TypeKey) :
    table.bare.isAssignable actual expected = table.isAssignable actual expected := by
  unfold isAssignable
  rw [chain_bare, allInterfaces_bare, type_bare]
  rfl

@[simp]
theorem defaultMember?_bare (key : TypeKey) :
    table.bare.defaultMember? key = table.defaultMember? key := by
  unfold defaultMember?
  simp only [chain_bare, type_bare, HostType.bare]

@[simp]
theorem findNested?_bare (key : TypeKey) (name : String) :
    table.bare.findNested? key name = table.findNested? key name := by
  unfold findNested?
  simp only [type_bare, HostType.bare]

/-! ### Mentions -/

@[simp]
theorem display_bare (type : TypeRef) : table.bare.display type = table.display type := by
  induction type with
  | nullable inner inductionHypothesis | array inner inductionHypothesis
  | box inner inductionHypothesis =>
    unfold display
    rw [inductionHypothesis]
  | named key =>
    unfold display
    rw [type_bare]
    rfl
  | _ => rfl

@[simp]
theorem acceptsNull_bare (type : TypeRef) :
    table.bare.acceptsNull type = table.acceptsNull type := by
  unfold acceptsNull isValueType
  simp only [type_bare]
  rfl

/-- What fields start from depends on nothing that the values of their types do not depend on. -/
theorem defaultFields_bare_of (bound : Nat)
    (values : ∀ type, table.bare.defaultValue bound type = table.defaultValue bound type)
    (fields : List Member) :
    table.bare.defaultFields bound (fields.map Member.bare) =
      table.defaultFields bound fields := by
  induction fields with
  | nil =>
    rw [List.map_nil, defaultFields, defaultFields]
  | cons field rest inductionHypothesis =>
    rw [List.map_cons, defaultFields, defaultFields, inductionHypothesis, values]
    rfl

theorem defaultValue_bare (bound : Nat) (type : TypeRef) :
    table.bare.defaultValue bound type = table.defaultValue bound type := by
  induction bound using Nat.strongRecOn generalizing type with
  | ind bound inductionHypothesis =>
    rw [defaultValue.eq_def, defaultValue.eq_def]
    cases type with
    | named key =>
      have kind : (table.bare.type key).kind = (table.type key).kind := by
        rw [type_bare]
        rfl
      dsimp only
      rw [kind]
      split
      · rfl
      · split
        · next smaller =>
          rw [type_bare, HostType.structFields_bare,
            defaultFields_bare_of table key (inductionHypothesis key smaller)]
        · rfl
      · rfl
    | numeric kind => cases kind <;> rfl
    | _ => rfl

@[simp]
theorem initial_bare (type : TypeRef) : table.bare.initial type = table.initial type := by
  unfold initial
  rw [size_bare, defaultValue_bare]

end TypeTable

end Host

/-! ### Stores without annotations -/

namespace Store

/-- The store with its types bare. -/
def bare (store : Store) : Store := { store with types := store.types.bare }

variable (store : Store)

@[simp]
theorem types_bare : store.bare.types = store.types.bare := rfl

@[simp]
theorem typeOf_bare (value : Value) : store.bare.typeOf value = store.typeOf value := by
  cases value <;> rfl

@[simp]
theorem typeText_bare (value : Value) : store.bare.typeText value = store.typeText value := by
  unfold typeText
  rw [typeOf_bare]
  exact store.types.display_bare _

@[simp]
theorem isInstance_bare (value : Value) (type : TypeRef) :
    store.bare.isInstance value type = store.isInstance value type := by
  unfold isInstance
  rw [typeOf_bare]
  cases type.underlying with
  | named expected =>
    cases store.typeOf value with
    | named actual => exact congrArg _ (store.types.isAssignable_bare actual expected)
    | _ => rfl
  | _ => rfl

@[simp]
theorem ownText?_bare (value : Value) : store.bare.ownText? value = store.ownText? value := by
  have name (key : TypeKey) : (store.bare.types.type key).name = (store.types.type key).name := by
    unfold bare
    rw [TypeTable.type_bare]
    rfl
  have display (type : TypeRef) : store.bare.types.display type = store.types.display type :=
    store.types.display_bare type
  cases value with
  | enumeration type raw =>
    refine congrArg some ?_
    unfold enumerationText bare
    rw [TypeTable.type_bare]
    rfl
  | struct type fields => exact congrArg some (name type)
  | object cell => exact congrArg some (name (store.objectType cell))
  | delegate cell => exact congrArg some (name (store.delegateType cell))
  | array cell => exact congrArg (fun text => some (text ++ "[]")) (display _)
  | type type => exact congrArg some (display type)
  | _ => rfl

theorem textWithin?_bare (boxes : Nat) (value : Value) :
    store.bare.textWithin? boxes value = store.textWithin? boxes value := by
  induction boxes generalizing value with
  | zero => exact store.ownText?_bare value
  | succ boxes inductionHypothesis =>
    cases value with
    | box cell => exact inductionHypothesis _
    | _ => exact store.ownText?_bare _

@[simp]
theorem text?_bare (value : Value) : store.bare.text? value = store.text? value :=
  store.textWithin?_bare _ value

end Store

/-! ### Worlds without annotations -/

namespace Binding

/-- The slot with its members bare. -/
def Slot.bare (slot : Slot) : Slot := ⟨slot.declaration.bare, slot.implementation.bare⟩

/-- The scene as it is without annotations. -/
def Scene.bare (scene : Scene) : Scene :=
  { scene with sight := { scene.sight with table := scene.sight.table.bare } }

/-- What happened, whatever the annotations. -/
def MemberEvent.bare : MemberEvent → MemberEvent
  | looked scene => looked scene.bare
  | used use => used { use with scene := use.scene.bare, slot := use.slot.bare }
  | offered offer => offered offer
  | governed engine policy => governed engine policy

end Binding

namespace World

/-- The world with its types bare and its history told without annotations. -/
def bare (world : World) : World :=
  { world with store := world.store.bare, history := world.history.map MemberEvent.bare }

variable (world : World)

@[simp]
theorem targetOf_bare (cell : CellId) : world.bare.targetOf cell = world.targetOf cell := rfl

@[simp]
theorem describe_bare (value : Script.Value) :
    world.bare.describe value = world.describe value := by
  cases value with
  | proxy cell =>
    unfold describe
    dsimp only
    rw [targetOf_bare]
    cases world.targetOf cell with
    | error error => rfl
    | ok target => exact congrArg ("host " ++ ·) (world.store.typeText_bare target)
  | wrappedNull type => exact congrArg ("null " ++ ·) (world.store.types.display_bare type)
  | _ => rfl

theorem name_types_bare (key : TypeKey) :
    (world.bare.store.types.type key).name = (world.store.types.type key).name :=
  (congrArg HostType.name (world.store.types.type_bare key)).trans rfl

theorem display_types_bare (type : TypeRef) :
    world.bare.store.types.display type = world.store.types.display type :=
  world.store.types.display_bare type

mutual

theorem showHost_bare : ∀ (levels : Nat) (value : Value),
    world.bare.showHost levels value = world.showHost levels value
  | 0, value => by
    rw [showHost, showHost]
  | levels + 1, value => by
    have below : world.bare.showHost levels = world.showHost levels :=
      funext (showHost_bare levels)
    have script : world.bare.showScript levels = world.showScript levels :=
      funext (showScript_bare levels)
    rw [showHost.eq_def, showHost.eq_def]
    simp only [name_types_bare, display_types_bare, below, script]
    rfl

theorem showScript_bare : ∀ (levels : Nat) (value : Script.Value),
    world.bare.showScript levels value = world.showScript levels value
  | 0, value => by
    rw [showScript, showScript]
  | levels + 1, value => by
    have below : world.bare.showHost levels = world.showHost levels :=
      funext (showHost_bare levels)
    have script : world.bare.showScript levels = world.showScript levels :=
      funext (showScript_bare levels)
    rw [showScript.eq_def, showScript.eq_def]
    simp only [name_types_bare, display_types_bare, below, script]
    rfl

end

@[simp]
theorem shownHost_bare (value : Value) : world.bare.shownHost value = world.shownHost value :=
  world.showHost_bare _ value

/-! ### Lives -/

theorem anchors_bare : world.bare.anchors = world.anchors := by
  have defaults : world.bare.store.types.types.toList.flatMap HostType.defaultCells =
      world.store.types.types.toList.flatMap HostType.defaultCells := by
    show (world.store.types.types.map HostType.bare).toList.flatMap HostType.defaultCells = _
    rw [Array.toList_map, List.flatMap_map]
    exact congrArg (List.flatMap · _) (funext HostType.defaultCells_bare)
  unfold anchors
  rw [defaults]
  rfl

theorem namings_bare : world.bare.namings = world.namings := by
  unfold namings
  rw [anchors_bare]
  rfl

theorem bury_bare (cell : CellId) : (world.bury cell).bare = world.bare.bury cell := by
  have found : world.bare.store.get? cell = world.store.get? cell := rfl
  unfold bury
  rw [found]
  cases world.store.get? cell with
  | none => rfl
  | some contents => cases contents <;> rfl

theorem unname_bare (store : Store) (cells : List CellId) (state : Array Nat × List CellId) :
    unname store.bare cells state = unname store cells state := by
  induction cells generalizing state with
  | nil => rfl
  | cons cell rest inductionHypothesis => exact inductionHypothesis _

theorem reapFrom_bare (steps : Nat) (dying : List CellId) (counts : Array Nat) :
    (reapFrom steps dying counts world).bare = reapFrom steps dying counts world.bare := by
  induction steps generalizing dying counts world with
  | zero => rfl
  | succ steps inductionHypothesis =>
    cases dying with
    | nil => rfl
    | cons cell rest =>
      unfold reapFrom
      dsimp only
      rw [inductionHypothesis, ← bury_bare]
      have living : world.bare.store.get? cell = world.store.get? cell := rfl
      have counted (named : List CellId) :=
        unname_bare (world.bury cell).store named (counts, rest)
      rw [living]
      simp only [bare, counted]

/-- The same cells die. -/
theorem reap_bare : world.reap.bare = world.bare.reap := by
  unfold reap
  rw [reapFrom_bare, namings_bare]
  rfl

end World

end ScriptBridge
